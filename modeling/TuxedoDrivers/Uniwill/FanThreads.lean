import TuxedoDrivers.Uniwill.FanTables
import TuxedoDrivers.Uniwill.RamInvariants
import TuxedoDrivers.Uniwill.SettingRuns

/-!
# Fan requests that come between each other

The requests of user space, the restart work and the power callbacks set the
speeds and fill the tables without a lock of their own, from variables that
they share, and any access to the EC can fail.  Tables may so be filled in
part or twice, but what stands in them and in the speed registers stays what
the driver means the fans to get.
-/

namespace TuxedoDrivers.Uniwill

open Interaction

/-! ## What the fans may be told -/

def FanTableRegister (address : U16) : Prop :=
  0x0f00 ≤ address ∧ address ≤ 0x0f5f

instance (address : U16) : Decidable (FanTableRegister address) :=
  inferInstanceAs (Decidable (_ ∧ _))

/-- What was there before, a speed in range, or what the set-up writes to the
tables. -/
def FanAllowed (before : Ram) (address : U16) (data : U8) : Prop :=
  data = before address ∨
    (SpeedRegister address → FanSpeedInRange data) ∧
      (FanTableRegister address → ¬ SpeedRegister address →
        (address, data) ∈ fanTableWrites)

/-- The device has universal fan control, and every speed that is kept is in
range. -/
structure FanVariables (statics : DriverState) : Prop where
  universal : statics.hasUniversalEcFanControl = true
  fan0 : FanSpeedInRange statics.fan.directFanControlCurrentValueFan0
  fan1 : FanSpeedInRange statics.fan.directFanControlCurrentValueFan1
  saved0 :
    FanSpeedInRange statics.fan.directFanControlCurrentValueFan0SuspendSave
  saved1 :
    FanSpeedInRange statics.fan.directFanControlCurrentValueFan1SuspendSave

section Allowed

variable {before : Ram} {address : U16} {data : U8}

theorem fanAllowed_speed (isSpeed : SpeedRegister address)
    (inRange : FanSpeedInRange data) : FanAllowed before address data :=
  Or.inr ⟨fun _ => inRange, fun _ other => absurd isSpeed other⟩

/-- Beyond the first zone no register of a speed is in the tables. -/
theorem notSpeed_zone :
    ∀ i < 15,
      ¬ SpeedRegister (0x0f00 + BitVec.ofNat 16 (1 + i)) ∧
        ¬ SpeedRegister (0x0f10 + BitVec.ofNat 16 (1 + i)) ∧
        ¬ SpeedRegister (0x0f20 + BitVec.ofNat 16 (1 + i)) ∧
        ¬ SpeedRegister (0x0f30 + BitVec.ofNat 16 (1 + i)) ∧
        ¬ SpeedRegister (0x0f40 + BitVec.ofNat 16 (1 + i)) ∧
        ¬ SpeedRegister (0x0f50 + BitVec.ofNat 16 (1 + i)) := by
  decide

theorem speeds_fanTableWrites {write : U16 × U8}
    (member : write ∈ fanTableWrites) (isSpeed : SpeedRegister write.1) :
    FanSpeedInRange write.2 := by
  rcases List.mem_append.mp member with inFirst | inOthers
  · simp only [firstZoneWrites, List.mem_cons, List.not_mem_nil, or_false]
      at inFirst
    rcases inFirst with rfl | rfl | rfl | rfl | rfl | rfl
    · exact absurd isSpeed (by decide)
    · exact absurd isSpeed (by decide)
    · decide
    · exact absurd isSpeed (by decide)
    · exact absurd isSpeed (by decide)
    · decide
  · obtain ⟨zone, isZone, inZone⟩ := List.mem_flatMap.mp inOthers
    obtain ⟨i, bound, rfl⟩ := List.mem_range'.mp isZone
    obtain ⟨endCpu, startCpu, speedCpu, endGpu, startGpu, speedGpu⟩ :=
      notSpeed_zone i bound
    rw [Nat.one_mul, zoneWrites] at inZone
    simp only [List.mem_cons, List.not_mem_nil, or_false] at inZone
    rcases inZone with rfl | rfl | rfl | rfl | rfl | rfl
    · exact absurd isSpeed endCpu
    · exact absurd isSpeed startCpu
    · exact absurd isSpeed speedCpu
    · exact absurd isSpeed endGpu
    · exact absurd isSpeed startGpu
    · exact absurd isSpeed speedGpu

theorem fanAllowed_table (isWrite : (address, data) ∈ fanTableWrites) :
    FanAllowed before address data :=
  Or.inr
    ⟨speeds_fanTableWrites isWrite, fun _ _ => isWrite⟩

theorem fanAllowed_elsewhere (notSpeed : ¬ SpeedRegister address)
    (notTable : ¬ FanTableRegister address) :
    FanAllowed before address data :=
  Or.inr
    ⟨fun isSpeed => absurd isSpeed notSpeed, fun inTable =>
      absurd inTable notTable⟩

end Allowed

/-! ## Operations -/

/-- The operation keeps to what the fans may be told. -/
abbrev KeepsFans {α : Type} (before : Ram) (program : Driver α) : Prop :=
  KeepsAllowed (FanAllowed before) FanVariables (fun _ => True) program

section Operations

variable {before : Ram}

theorem uwInitFanZone_listed {i : Nat} (zone : i ∈ List.range' 1 15) :
    (uwInitFanZone i).Asks
      (EcRequest fun address data => (address, data) ∈ fanTableWrites) := by
  have write {address : U16} {data : U8}
      (member : (address, data) ∈ zoneWrites i) :
      (uniwillWriteEcRamWithRetry address data 3).Asks
        (EcRequest fun address data => (address, data) ∈ fanTableWrites) := by
    apply asks_uniwillWriteEcRamWithRetry
    exact
      List.mem_append_right _ (List.mem_flatMap.mpr ⟨i, zone, member⟩)
  unfold uwInitFanZone
  apply (write (by simp [zoneWrites])).bind fun _ => ?_
  apply (write (by simp [zoneWrites])).bind fun _ => ?_
  apply (write (by simp [zoneWrites])).bind fun _ => ?_
  apply (write (by simp [zoneWrites])).bind fun _ => ?_
  apply (write (by simp [zoneWrites])).bind fun _ => ?_
  exact (write (by simp [zoneWrites])).bind fun _ => trivial

/-- The set-up of the tables writes only what is in the list. -/
theorem uwInitFanTables_listed :
    uwInitFanTables.Asks
      (EcRequest fun address data => (address, data) ∈ fanTableWrites) := by
  have write {address : U16} {data : U8}
      (member : (address, data) ∈ firstZoneWrites) :
      (uniwillWriteEcRamWithRetry address data 3).Asks
        (EcRequest fun address data => (address, data) ∈ fanTableWrites) :=
    asks_uniwillWriteEcRamWithRetry (List.mem_append_left _ member) 3
  unfold uwInitFanTables
  apply (write (by decide)).bind fun _ => ?_
  apply (write (by decide)).bind fun _ => ?_
  apply (write (by decide)).bind fun _ => ?_
  apply (write (by decide)).bind fun _ => ?_
  apply (write (by decide)).bind fun _ => ?_
  apply (write (by decide)).bind fun _ => ?_
  exact Program.Asks.forM fun i zone => uwInitFanZone_listed zone

/-- Registers that are neither of the tables nor of a speed. -/
theorem keepsFans_at {α : Type} {program : Driver α} {register : U16}
    (asks : program.Asks (EcRequest fun address _ => address = register))
    (notSpeed : ¬ SpeedRegister register)
    (notTable : ¬ FanTableRegister register) :
    KeepsFans before program := by
  apply keepsAllowed_of_ecRequests asks
  rintro address data rfl
  exact fanAllowed_elsewhere notSpeed notTable

theorem setFullFanMode_keepsFans (enable : Bool) :
    KeepsFans before (setFullFanMode enable) :=
  keepsFans_at (setFullFanMode_asks enable) (by decide) (by decide)

theorem uwInitFanSetup_keepsFans : KeepsFans before uwInitFanSetup := by
  unfold uwInitFanSetup
  apply Program.Guarantees.bind (setFullFanMode_keepsFans false)
  intro _ _
  apply Program.Guarantees.bind
    (keepsFans_at (uwEnableCustomFanTable_asks 0x07c5 7) (by decide)
      (by decide))
  intro _ _
  apply Program.Guarantees.bind
    (keepsAllowed_of_ecRequests uwInitFanTables_listed
      fun _ _ listed => fanAllowed_table listed)
  intro _ _
  exact
    keepsFans_at (uwEnableCustomFanTable_asks 0x07c6 2) (by decide)
      (by decide)

theorem uwInitFan_keepsFans : KeepsFans before uwInitFan := by
  unfold uwInitFan
  apply Program.Guarantees.bind keepsAllowed_getStatics
  intro statics _
  have marked : KeepsFans before
      (setStatics fun statics =>
        { statics with fan.fansInitialized := true }) :=
    keepsAllowed_setStatics fun _ kept =>
      ⟨kept.universal, kept.fan0, kept.fan1, kept.saved0, kept.saved1⟩
  apply Program.Guarantees.ite
  · intro _
    apply Program.Guarantees.bind uwInitFanSetup_keepsFans
    intro _ _
    exact marked.bind fun _ _ => trivial
  · intro _
    exact marked.bind fun _ _ => trivial

theorem directFanControlApply_keepsFans {address : U16}
    (isSpeed : SpeedRegister address) {fanSpeed : U8}
    (inRange : FanSpeedInRange fanSpeed) (preventRampup : Bool) :
    KeepsFans before
      (directFanControlApply address fanSpeed preventRampup) := by
  unfold directFanControlApply
  apply Program.Guarantees.bind keepsAllowed_getStatics
  intro statics _
  apply Program.Guarantees.ite
  · intro _
    apply Program.Guarantees.bind
      (keepsAllowed_setStatics fun _ kept =>
        ⟨kept.universal, kept.fan0, kept.fan1, kept.saved0, kept.saved1⟩)
    intro _ _
    apply Program.Guarantees.bind
      (keepsAllowed_setStatics fun _ kept =>
        ⟨kept.universal, kept.fan0, kept.fan1, kept.saved0, kept.saved1⟩)
    exact fun _ _ => trivial
  · intro _
    apply Program.Guarantees.bind
      (keepsAllowed_write (fanAllowed_speed isSpeed inRange))
    exact fun _ _ => trivial

theorem directFanControl_keepsFans (fanIndex : U32) {fanSpeed : U8}
    (inRange : FanSpeedInRange fanSpeed) (preventRampup : Bool) :
    KeepsFans before (directFanControl fanIndex fanSpeed preventRampup) := by
  unfold directFanControl
  apply Program.Guarantees.ite
  · intro _
    apply Program.Guarantees.bind
      (keepsAllowed_setStatics fun _ kept =>
        ⟨kept.universal, inRange, kept.fan1, kept.saved0, kept.saved1⟩)
    intro _ _
    exact directFanControlApply_keepsFans (by decide) inRange preventRampup
  · intro _
    apply Program.Guarantees.ite
    · intro _
      apply Program.Guarantees.bind
        (keepsAllowed_setStatics fun _ kept =>
          ⟨kept.universal, kept.fan0, inRange, kept.saved0, kept.saved1⟩)
      intro _ _
      exact directFanControlApply_keepsFans (by decide) inRange preventRampup
    · exact fun _ => trivial

theorem uwSetFanTable_keepsFans (fanIndex : U32) {address : U16}
    (isSpeed : SpeedRegister address) (fanSpeed : U8) :
    KeepsFans before (uwSetFanTable fanIndex address fanSpeed) := by
  unfold uwSetFanTable
  apply Program.Guarantees.ite
  · exact fun _ => trivial
  · intro accepted
    have inRange :=
      normaliseFanSpeed_inRange (Nat.not_lt.mp accepted)
    apply Program.Guarantees.bind
      (keepsAllowed_write (fanAllowed_speed isSpeed inRange))
    intro _ _
    apply Program.Guarantees.bind
      (directFanControl_keepsFans fanIndex inRange false)
    exact fun _ _ => trivial

/-- A request on a device with universal fan control. -/
theorem uwSetFan_keepsFans (fanIndex : U32) (fanSpeed : U8) :
    KeepsFans before (uwSetFan fanIndex fanSpeed) := by
  unfold uwSetFan
  apply Program.Guarantees.bind keepsAllowed_getStatics
  intro statics kept
  have universal :
      statics.uniwillDeviceFeatures.uniwillHasUniversalEcFanControl = true :=
    kept.universal
  rw [if_pos universal]
  apply Program.Guarantees.bind (keepsAllowed_read 0x0751)
  intro mode _
  apply Program.Guarantees.ite
  · intro _
    apply Program.Guarantees.bind uwInitFan_keepsFans
    intro _ _
    apply Program.Guarantees.ite
    · exact fun _ => uwSetFanTable_keepsFans fanIndex (by decide) fanSpeed
    · intro _
      apply Program.Guarantees.ite
      · exact fun _ => uwSetFanTable_keepsFans fanIndex (by decide) fanSpeed
      · exact fun _ => trivial
  · exact fun _ => trivial

theorem uwDisableCustomFanTable_asks (address : U16) (offset : Nat) :
    (uwDisableCustomFanTable address offset).Asks
      (EcRequest fun written _ => written = address) := by
  apply Program.Asks.bind (asks_uniwillReadEcRam address)
  intro value
  apply Program.Asks.ite
  · intro _
    exact (asks_uniwillWriteEcRamWithRetry rfl 3).bind fun _ => trivial
  · exact fun _ => trivial

theorem inRange_zero : FanSpeedInRange 0 :=
  Or.inl rfl

theorem uwSetFanAuto_keepsFans : KeepsFans before uwSetFanAuto := by
  unfold uwSetFanAuto
  have stopped : KeepsFans before
      (setStatics fun statics =>
        { statics with
          fan.directFanControlCurrentValueFan0 := 0
          fan.directFanControlCurrentValueFan1 := 0 }) :=
    keepsAllowed_setStatics fun _ kept =>
      ⟨kept.universal, inRange_zero, inRange_zero, kept.saved0, kept.saved1⟩
  apply Program.Guarantees.bind keepsAllowed_getStatics
  intro statics kept
  have universal :
      statics.uniwillDeviceFeatures.uniwillHasUniversalEcFanControl = true :=
    kept.universal
  rw [if_pos universal]
  unfold uwSetFanAutoTables
  have disabled (address : U16) (offset : Nat)
      (notSpeed : ¬ SpeedRegister address)
      (notTable : ¬ FanTableRegister address) :
      KeepsFans before (uwDisableCustomFanTable address offset) :=
    keepsFans_at (uwDisableCustomFanTable_asks address offset) notSpeed
      notTable
  have tables : KeepsFans before uwSetFanAutoTables := by
    apply Program.Guarantees.bind
      (disabled 0x07c6 2 (by decide) (by decide))
    intro _ _
    apply Program.Guarantees.bind
      (disabled 0x07c5 7 (by decide) (by decide))
    intro _ _
    exact
      keepsAllowed_setStatics fun _ kept =>
        ⟨kept.universal, kept.fan0, kept.fan1, kept.saved0, kept.saved1⟩
  apply Program.Guarantees.bind tables
  intro _ _
  exact stopped.bind fun _ _ => trivial

theorem suspendFans_keepsFans : KeepsFans before suspendFans := by
  unfold suspendFans
  apply Program.Guarantees.bind keepsAllowed_getStatics
  intro statics _
  apply Program.Guarantees.ite
  · intro _
    apply Program.Guarantees.bind
      (keepsAllowed_setStatics fun _ kept =>
        ⟨kept.universal, kept.fan0, kept.fan1, kept.fan0, kept.fan1⟩)
    intro _ _
    exact uwSetFanAuto_keepsFans.bind fun _ _ => trivial
  · exact fun _ => trivial

theorem resumeFans_keepsFans : KeepsFans before resumeFans := by
  unfold resumeFans
  apply Program.Guarantees.bind keepsAllowed_getStatics
  intro statics _
  apply Program.Guarantees.ite
  · intro _
    apply Program.Guarantees.bind
      (keepsAllowed_setStatics fun _ kept =>
        ⟨kept.universal, kept.fan0, kept.fan1, kept.saved0, kept.saved1⟩)
    intro _ _
    apply Program.Guarantees.bind (uwSetFan_keepsFans _ _)
    intro _ _
    apply Program.Guarantees.bind keepsAllowed_getStatics
    intro statics _
    exact (uwSetFan_keepsFans _ _).bind fun _ _ => trivial
  · exact fun _ => trivial

/-- A round writes the speeds that it finds in the variables. -/
theorem preventRampupRound_keepsFans :
    KeepsFans before preventRampupRound := by
  unfold preventRampupRound
  apply Program.Guarantees.bind keepsAllowed_getStatics
  intro statics kept
  apply Program.Guarantees.bind
    (keepsAllowed_write (fanAllowed_speed (by decide) kept.fan0))
  intro _ _
  apply Program.Guarantees.bind keepsAllowed_getStatics
  intro statics kept
  apply Program.Guarantees.bind
    (keepsAllowed_write (fanAllowed_speed (by decide) kept.fan1))
  exact fun _ _ => trivial

theorem runRestartWork_keepsFans : KeepsFans before runRestartWork := by
  unfold runRestartWork restartDirectFanControlWorkHandler
  have marked (pending : Bool) : KeepsFans before
      (setStatics fun statics =>
        { statics with fan.restartWorkPending := pending }) :=
    keepsAllowed_setStatics fun _ kept =>
      ⟨kept.universal, kept.fan0, kept.fan1, kept.saved0, kept.saved1⟩
  apply Program.Guarantees.bind (marked false)
  intro _ _
  apply Program.Guarantees.bind (setFullFanMode_keepsFans false)
  intro _ _
  apply Program.Guarantees.bind (setFullFanMode_keepsFans true)
  intro _ _
  apply Program.Guarantees.bind
    (Program.Guarantees.forM (fun _ => preventRampupRound_keepsFans) _)
  intro _ _
  exact marked true

/-- What neither writes a register of the fans nor assigns a variable that
matters to them. -/
theorem keepsFans_of_confined {α : Type} {program : Driver α}
    {registers : U16 → Prop} {view : DriverState → DriverState}
    (asks : program.Asks (Confined registers view))
    (apart : ∀ address, registers address →
      ¬ SpeedRegister address ∧ ¬ FanTableRegister address)
    (shown : ∀ statics, (view statics).fan = statics.fan ∧
      (view statics).uniwillDeviceFeatures =
        statics.uniwillDeviceFeatures) :
    KeepsFans before program := by
  apply keepsAllowed_of_confined asks
  · intro address data written
    exact fanAllowed_elsewhere (apart address written).1
      (apart address written).2
  · intro first second same kept
    have fan : first.fan = second.fan := by
      rw [← (shown first).1, ← (shown second).1, same]
    have features :
        first.uniwillDeviceFeatures = second.uniwillDeviceFeatures := by
      rw [← (shown first).2, ← (shown second).2, same]
    constructor
    · rw [DriverState.hasUniversalEcFanControl, features]
      exact kept.universal
    · rw [fan]
      exact kept.fan0
    · rw [fan]
      exact kept.fan1
    · rw [fan]
      exact kept.saved0
    · rw [fan]
      exact kept.saved1

theorem outsideFans_customProfile (address : U16)
    (written : CustomProfileRegister address) :
    ¬ SpeedRegister address ∧ ¬ FanTableRegister address := by
  rw [written]
  decide

theorem outsideFans_backlight (address : U16)
    (written : BacklightRegister address) :
    ¬ SpeedRegister address ∧ ¬ FanTableRegister address := by
  simp only [BacklightRegister, List.mem_cons, List.not_mem_nil,
    or_false] at written
  rcases written with rfl | rfl | rfl | rfl | rfl | rfl <;> decide

theorem outsideFans_charging (address : U16)
    (written : ChargingRegister address) :
    ¬ SpeedRegister address ∧ ¬ FanTableRegister address := by
  rcases written with rfl | rfl <;> decide

theorem uniwillKeyboardSuspend_keepsFans :
    KeepsFans before uniwillKeyboardSuspend := by
  unfold uniwillKeyboardSuspend
  apply Program.Guarantees.bind
    (keepsFans_of_confined suspendCustomProfile_confined
      outsideFans_customProfile fun _ => ⟨rfl, rfl⟩)
  intro _ _
  apply Program.Guarantees.bind
    (keepsFans_of_confined (uniwillWriteKbdBlEnable_confined 0)
      outsideFans_backlight fun _ => ⟨rfl, rfl⟩)
  intro _ _
  exact suspendFans_keepsFans.bind fun _ _ => trivial

theorem uniwillKeyboardResume_keepsFans :
    KeepsFans before uniwillKeyboardResume := by
  unfold uniwillKeyboardResume
  apply Program.Guarantees.bind resumeFans_keepsFans
  intro _ _
  apply Program.Guarantees.bind
    (keepsFans_of_confined resumeCustomProfile_confined
      outsideFans_customProfile fun _ => ⟨rfl, rfl⟩)
  intro _ _
  apply Program.Guarantees.bind
    (keepsFans_of_confined uniwillLedsRestoreStateExtern_confined
      outsideFans_backlight fun _ => ⟨rfl, rfl⟩)
  intro _ _
  apply Program.Guarantees.bind
    (keepsFans_of_confined (uniwillWriteKbdBlEnable_confined 1)
      outsideFans_backlight fun _ => ⟨rfl, rfl⟩)
  intro _ _
  apply Program.Guarantees.bind
    (keepsFans_of_confined uwChargingPriorityWriteState_confined
      outsideFans_charging fun _ => ⟨rfl, rfl⟩)
  intro _ _
  apply Program.Guarantees.bind
    (keepsFans_of_confined uwChargingProfileWriteState_confined
      outsideFans_charging fun _ => ⟨rfl, rfl⟩)
  exact fun _ _ => trivial

end Operations

/-! ## Threads -/

/-- The requests of user space, the work, and the power callbacks. -/
inductive FanCall where
  | fanSpeed (second : Bool) (argument : U32)
  | fanAuto
  | restartWork
  | suspend
  | resume
  deriving DecidableEq, Repr

def FanCall.program : FanCall → Driver Unit
  | .fanSpeed second argument => uniwillIoctlFanSpeed second argument
  | .fanAuto => (fun _ => ()) <$> uwSetFanAuto
  | .restartWork => runRestartWork
  | .suspend => (fun _ => ()) <$> uniwillKeyboardSuspend
  | .resume => (fun _ => ()) <$> uniwillKeyboardResume

theorem fanCall_keepsFans {before : Ram} (call : FanCall) :
    KeepsFans before call.program := by
  cases call with
  | fanSpeed second argument =>
      exact (uwSetFan_keepsFans _ _).bind fun _ _ => trivial
  | fanAuto =>
      exact uwSetFanAuto_keepsFans.bind fun _ _ => trivial
  | restartWork =>
      exact runRestartWork_keepsFans
  | suspend =>
      exact uniwillKeyboardSuspend_keepsFans.bind fun _ _ => trivial
  | resume =>
      exact uniwillKeyboardResume_keepsFans.bind fun _ _ => trivial

end TuxedoDrivers.Uniwill
