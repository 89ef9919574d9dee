import TuxedoDrivers.Clevo.ClosestThreshold
import TuxedoDrivers.Clevo.FlexichargerProtocols
import TuxedoDrivers.Interaction.Runs

/-!
# Stores of the charge control

Accesses to the three attributes of the charge control, with a firmware that
keeps the values.  A store sets the value of its attribute and leaves the
other two alone, and what is shown is what was stored.
-/

namespace TuxedoDrivers.Clevo

open Interaction

/-! ## Closest values -/

/-- A supported value, and none is closer. -/
structure Closest (values : List U8) (value closest : U8) : Prop where
  supported : closest ∈ values
  nearest : ∀ other ∈ values,
    byteDistance value closest ≤ byteDistance value other

theorem closest_arrayFindClosestU8 (value first : U8) (rest : List U8) :
    Closest (first :: rest) value
      (BitVec.ofInt 8 (arrayFindClosestU8 value (first :: rest))) := by
  obtain ⟨index, result, minimum⟩ :=
    exists_firstMinimum_arrayFindClosestU8 value
      (List.cons_ne_nil first rest)
  rw [result, BitVec.ofInt_natCast, BitVec.ofNat_toNat, BitVec.setWidth_eq]
  constructor
  · exact List.get_mem (first :: rest) index
  · intro other member
    obtain ⟨place, rfl⟩ := List.mem_iff_get.mp member
    exact minimum.cheapest place

/-! ## Attributes -/

inductive ChargeAttribute where
  | chargeType
  | startThreshold
  | endThreshold
  deriving DecidableEq, Repr

namespace ChargeAttribute

section Calls

variable (activeClevoInterface : Option ClevoInterface)

def showCall : ChargeAttribute → Call (Except Int String)
  | .chargeType => chargeTypeShow activeClevoInterface
  | .startThreshold => chargeControlStartThresholdShow activeClevoInterface
  | .endThreshold => chargeControlEndThresholdShow activeClevoInterface

def storeCall : ChargeAttribute → String → Nat → Call Int
  | .chargeType => chargeTypeStore activeClevoInterface
  | .startThreshold => chargeControlStartThresholdStore activeClevoInterface
  | .endThreshold => chargeControlEndThresholdStore activeClevoInterface

end Calls

def value (values : Flexicharger) : ChargeAttribute → U8
  | .chargeType => values.status
  | .startThreshold => values.start
  | .endThreshold => values.stop

/-- The other two values stay. -/
def set (byte : U8) (values : Flexicharger) : ChargeAttribute → Flexicharger
  | .chargeType => { values with status := byte }
  | .startThreshold => { values with start := byte }
  | .endThreshold => { values with stop := byte }

/-- The text that stands for a value. -/
def text (byte : U8) : ChargeAttribute → String
  | .chargeType => if byte = 1 then "Custom\n" else "Standard\n"
  | .startThreshold | .endThreshold => thresholdText byte

/-- A threshold from 1 to 100, and the supported value for it. -/
def ThresholdMeans (supported : List U8) (buf : String) (byte : U8) :
    Prop :=
  ∃ value, kstrtou8 buf 10 = .ok value ∧ 1 ≤ value.toNat ∧
    value.toNat ≤ 100 ∧ Closest supported value byte

/-- The text is valid for the attribute and means the value. -/
def Means (buf : String) (byte : U8) : ChargeAttribute → Prop
  | .chargeType =>
      (sysfsStreq buf "Standard" = true ∧ byte = 0) ∨
        (sysfsStreq buf "Custom" = true ∧ byte = 1)
  | .startThreshold =>
      ThresholdMeans clevoLegacyFlexichargerStartValues buf byte
  | .endThreshold => ThresholdMeans clevoLegacyFlexichargerEndValues buf byte

/-- A word of the two, or a number from 1 to 100. -/
def Valid (buf : String) : ChargeAttribute → Prop
  | .chargeType =>
      sysfsStreq buf "Standard" = true ∨ sysfsStreq buf "Custom" = true
  | .startThreshold | .endThreshold =>
      ∃ value, kstrtou8 buf 10 = .ok value ∧ 1 ≤ value.toNat ∧
        value.toNat ≤ 100

end ChargeAttribute

/-! ## One access -/

section Access

variable {σ : Type} {firmware : Firmware σ} {interface : ClevoInterface}
  {holds : σ → Flexicharger}

theorem run_flexichargerShow
    (keeps : KeepsValues firmware interface holds)
    (text : Flexicharger → String) (state : σ) :
    ((flexichargerShow (some interface) text).run firmware state).1 =
        .ok (text (holds state)) ∧
      holds
        ((flexichargerShow (some interface) text).run firmware state).2 =
        holds state := by
  obtain ⟨read, same⟩ := keeps.read state
  simp only [flexichargerShow, Program.run_bind, read, Program.run_pure,
    true_and]
  exact same

theorem run_showCall (keeps : KeepsValues firmware interface holds)
    (setting : ChargeAttribute) (state : σ) :
    ((setting.showCall (some interface)).run firmware state).1 =
        .ok (setting.text (setting.value (holds state))) ∧
      holds
        ((setting.showCall (some interface)).run firmware state).2 =
        holds state := by
  cases setting with
  | chargeType => exact run_flexichargerShow keeps chargeTypeText state
  | startThreshold =>
      exact
        run_flexichargerShow keeps (fun values => thresholdText values.start)
          state
  | endThreshold =>
      exact
        run_flexichargerShow keeps (fun values => thresholdText values.stop)
          state

theorem run_flexichargerStore
    (keeps : KeepsValues firmware interface holds)
    {paramStart paramEnd paramStatus : Option U8}
    (status : ∀ status ∈ paramStatus, status.toNat ≤ 1)
    (start : ∀ start ∈ paramStart, start ≠ 0)
    (stop : ∀ stop ∈ paramEnd, stop ≠ 0) (count : Nat) (state : σ) :
    ((flexichargerStore (some interface) paramStart paramEnd paramStatus
        count).run firmware state).1 = count ∧
      holds
        ((flexichargerStore (some interface) paramStart paramEnd paramStatus
          count).run firmware state).2 =
        { start := paramStart.getD (holds state).start
          stop := paramEnd.getD (holds state).stop
          status := paramStatus.getD (holds state).status } := by
  obtain ⟨success, set⟩ := keeps.write state _ _ _ status start stop
  simp only [flexichargerStore, Program.run_bind, success, lt_irrefl,
    if_false, Program.run_pure, true_and]
  exact set

/-- A threshold store writes the closest supported value. -/
theorem thresholdStore_of_valid (supported : List U8) {buf : String}
    {value first : U8} {rest : List U8} (nonempty : supported = first :: rest)
    (parses : kstrtou8 buf 10 = .ok value) (least : 1 ≤ value.toNat)
    (most : value.toNat ≤ 100) :
    ∃ byte, ChargeAttribute.ThresholdMeans supported buf byte ∧
      ∀ write, thresholdStore supported write buf = write byte := by
  subst nonempty
  refine ⟨_, ⟨value, parses, least, most,
    closest_arrayFindClosestU8 value first rest⟩, fun write => ?_⟩
  have inRange : ¬ (value.toNat < 1 ∨ value.toNat > 100) := by omega
  simp only [thresholdStore, parses, if_neg inRange]

theorem thresholdStore_of_invalid (supported : List U8) {buf : String}
    (invalid : ¬ ∃ value, kstrtou8 buf 10 = .ok value ∧ 1 ≤ value.toNat ∧
      value.toNat ≤ 100) :
    ∃ result : Int, result < 0 ∧
      ∀ write, thresholdStore supported write buf = pure result := by
  cases parses : kstrtou8 buf 10 with
  | error result =>
      refine ⟨result, kstrtou8_error_neg parses, fun write => ?_⟩
      simp only [thresholdStore, parses]
  | ok value =>
      have outOfRange : value.toNat < 1 ∨ value.toNat > 100 := by
        by_contra inRange
        exact invalid ⟨value, parses, by omega, by omega⟩
      refine ⟨-einval, by decide, fun write => ?_⟩
      simp only [thresholdStore, parses, if_pos outOfRange]

/-- No supported threshold is 0. -/
theorem ne_zero_of_thresholdMeans {supported : List U8} {buf : String}
    {byte : U8} (positive : ∀ threshold ∈ supported, threshold ≠ 0)
    (means : ChargeAttribute.ThresholdMeans supported buf byte) :
    byte ≠ 0 := by
  obtain ⟨_, _, _, _, closest⟩ := means
  exact positive byte closest.supported

/-- A valid text stores what it means. -/
theorem run_storeCall_of_valid
    (keeps : KeepsValues firmware interface holds)
    {setting : ChargeAttribute} {buf : String} (valid : setting.Valid buf)
    (count : Nat) (state : σ) :
    ∃ byte, setting.Means buf byte ∧
      ((setting.storeCall (some interface) buf count).run firmware
        state).1 = count ∧
      holds
        ((setting.storeCall (some interface) buf count).run firmware
          state).2 = setting.set byte (holds state) := by
  cases setting with
  | chargeType =>
      simp only [ChargeAttribute.storeCall, chargeTypeStore]
      by_cases standard : sysfsStreq buf "Standard" = true
      · refine ⟨0, Or.inl ⟨standard, rfl⟩, ?_⟩
        rw [if_pos standard]
        exact
          run_flexichargerStore keeps (by simp) (by simp) (by simp) count
            state
      · have custom := valid.resolve_left standard
        refine ⟨1, Or.inr ⟨custom, rfl⟩, ?_⟩
        rw [if_neg standard, if_pos custom]
        exact
          run_flexichargerStore keeps (by simp) (by simp) (by simp) count
            state
  | startThreshold =>
      obtain ⟨value, parses, least, most⟩ := valid
      obtain ⟨byte, means, stored⟩ :=
        thresholdStore_of_valid clevoLegacyFlexichargerStartValues rfl parses
          least most
      have notZero := ne_zero_of_thresholdMeans (by decide) means
      refine ⟨byte, means, ?_⟩
      simp only [ChargeAttribute.storeCall,
        chargeControlStartThresholdStore, stored]
      exact
        run_flexichargerStore keeps (by simp) (by simpa using notZero)
          (by simp) count state
  | endThreshold =>
      obtain ⟨value, parses, least, most⟩ := valid
      obtain ⟨byte, means, stored⟩ :=
        thresholdStore_of_valid clevoLegacyFlexichargerEndValues rfl parses
          least most
      have notZero := ne_zero_of_thresholdMeans (by decide) means
      refine ⟨byte, means, ?_⟩
      simp only [ChargeAttribute.storeCall,
        chargeControlEndThresholdStore, stored]
      exact
        run_flexichargerStore keeps (by simp) (by simp)
          (by simpa using notZero) count state

/-- Any other text is refused without a call. -/
theorem storeCall_of_invalid (interface : ClevoInterface)
    {setting : ChargeAttribute} {buf : String}
    (invalid : ¬ setting.Valid buf) (count : Nat) :
    ∃ result : Int, result < 0 ∧
      setting.storeCall (some interface) buf count = pure result := by
  cases setting with
  | chargeType =>
      have neither := not_or.mp invalid
      refine ⟨-einval, by decide, ?_⟩
      simp only [ChargeAttribute.storeCall, chargeTypeStore,
        if_neg neither.1, if_neg neither.2]
  | startThreshold =>
      obtain ⟨result, negative, refused⟩ :=
        thresholdStore_of_invalid clevoLegacyFlexichargerStartValues invalid
      refine ⟨result, negative, ?_⟩
      simp only [ChargeAttribute.storeCall,
        chargeControlStartThresholdStore, refused]
  | endThreshold =>
      obtain ⟨result, negative, refused⟩ :=
        thresholdStore_of_invalid clevoLegacyFlexichargerEndValues invalid
      refine ⟨result, negative, ?_⟩
      simp only [ChargeAttribute.storeCall,
        chargeControlEndThresholdStore, refused]

end Access

/-! ## Sequences of accesses -/

inductive ChargeAccess where
  | storing (setting : ChargeAttribute) (buf : String) (count : Nat)
  | showing (setting : ChargeAttribute)
  | detecting (dmi : Dmi)

namespace ChargeAccess

section Accesses

variable {σ : Type} (firmware : Firmware σ) (interface : ClevoInterface)
  (holds : σ → Flexicharger)

def step : ChargeAccess → σ → σ
  | .storing setting buf count, state =>
      ((setting.storeCall (some interface) buf count).run firmware state).2
  | .showing setting, state =>
      ((setting.showCall (some interface)).run firmware state).2
  | .detecting dmi, state =>
      ((clevoHasLegacyFlexicharger (some interface) dmi).run firmware
        state).2

/-- A store with a valid text sets the value of its attribute to what the
text means, and it is shown next.  Nothing else sets anything. -/
def Correct : ChargeAccess → σ → Prop
  | .storing setting buf count, state =>
      let stored :=
        (setting.storeCall (some interface) buf count).run firmware state
      (setting.Valid buf →
        ∃ byte, setting.Means buf byte ∧ stored.1 = count ∧
          holds stored.2 = setting.set byte (holds state) ∧
          ((setting.showCall (some interface)).run firmware stored.2).1 =
            .ok (setting.text byte)) ∧
      (¬ setting.Valid buf →
        stored.1 < 0 ∧ holds stored.2 = holds state)
  | .showing setting, state =>
      let shown := (setting.showCall (some interface)).run firmware state
      shown.1 = .ok (setting.text (setting.value (holds state))) ∧
        holds shown.2 = holds state
  | .detecting dmi, state =>
      holds
        ((clevoHasLegacyFlexicharger (some interface) dmi).run firmware
          state).2 = holds state

variable {firmware interface holds}

theorem correct (keeps : KeepsValues firmware interface holds)
    (access : ChargeAccess) (state : σ) :
    access.Correct firmware interface holds state := by
  cases access with
  | storing setting buf count =>
      refine ⟨fun valid => ?_, fun invalid => ?_⟩
      · obtain ⟨byte, means, success, set⟩ :=
          run_storeCall_of_valid keeps valid count state
        refine ⟨byte, means, success, set, ?_⟩
        have shown :=
          (run_showCall keeps setting
            ((setting.storeCall (some interface) buf count).run firmware
              state).2).1
        rw [shown, set]
        cases setting <;> rfl
      · obtain ⟨result, negative, refused⟩ :=
          storeCall_of_invalid interface invalid count
        rw [refused]
        exact ⟨negative, rfl⟩
  | showing setting => exact run_showCall keeps setting state
  | detecting dmi => exact keeps.detect state dmi

end Accesses

end ChargeAccess

/-- Whichever protocol the firmware has, every access of a sequence is
correct. -/
theorem eachAccess_correct {σ : Type} {firmware : Firmware σ}
    {interface : ClevoInterface} {holds : σ → Flexicharger}
    (speaks : LegacyFirmware firmware interface holds ∨
      interface = .acpi ∧ Cc4Firmware firmware holds)
    (accesses : List ChargeAccess) (state : σ) :
    EachStep (ChargeAccess.step firmware interface)
      (ChargeAccess.Correct firmware interface holds) accesses state := by
  have keeps : KeepsValues firmware interface holds := by
    rcases speaks with legacy | ⟨rfl, cc4⟩
    · exact legacy.keepsValues
    · exact cc4.keepsValues
  induction accesses generalizing state with
  | nil => trivial
  | cons access rest inductionHypothesis =>
      exact
        ⟨ChargeAccess.correct keeps access state, inductionHypothesis _⟩

def switchedHolds (state : U8 × U8 × Bool) : Flexicharger :=
  ⟨state.1, state.2.1, if state.2.2 = true then 1 else 0⟩

/-- The methods of a firmware of the legacy kind, with the two thresholds and
a switch. -/
def switchedMethod (methodId arg : U32) (state : U8 × U8 × Bool) :
    U32 × U8 × U8 × Bool :=
  if methodId = 0x77 then (legacyWord (switchedHolds state), state)
  else if methodId = 0x76 ∧ arg >>> 24 = 6 then
    (0x76, arg.setWidth 8, (arg >>> 8).setWidth 8, state.2.2)
  else if methodId = 0x76 ∧ arg >>> 24 = 5 then
    (0x76, state.1, state.2.1, decide (arg.setWidth 8 = (1 : U8)))
  else (0, state)

def switchedFirmware : Firmware (U8 × U8 × Bool)
  | .wmiEvaluateMethod methodId arg, state =>
      let called := switchedMethod methodId arg state
      (.success (some (.integer (called.1.setWidth 64))), called.2)
  | .acpiEvaluateDsm _ _, state => (none, state)
  | .activeDriverData, state => (false, state)
  | .acpiDeviceHandle, state => (false, state)
  | .strayObject, state => (.other, state)
  | .strayByte, state => (0, state)
  | .acpiFree _, state => ((), state)

theorem evaluation_switchedFirmware (cmd : U8) (arg : U32)
    (state : U8 × U8 × Bool) :
    evaluation switchedFirmware .wmi cmd arg state =
      (some (.integer
        ((switchedMethod (cmd.setWidth 32) arg state).1.setWidth 64)),
        (switchedMethod (cmd.setWidth 32) arg state).2) :=
  rfl

theorem switchedFirmware_isLegacy :
    LegacyFirmware switchedFirmware .wmi switchedHolds where
  driverData := by rintro ⟨⟩
  deviceHandle := by rintro ⟨⟩
  keepsUncalled := by
    intro request state uncalled
    cases request with
    | wmiEvaluateMethod _ _ => cases uncalled
    | acpiEvaluateDsm _ _ => cases uncalled
    | activeDriverData => rfl
    | acpiDeviceHandle => rfl
    | strayObject => rfl
    | strayByte => rfl
    | acpiFree _ => rfl
  onOrOff := by
    rintro ⟨start, stop, _ | _⟩
    · exact Nat.zero_le 1
    · exact Nat.le_refl 1
  keeps := by
    intro cmd arg state other
    have notWrite : cmd.setWidth 32 ≠ (0x76 : U32) := by
      intro same
      apply other
      have values := congrArg (BitVec.setWidth 8) same
      simpa using values
    rw [evaluation_switchedFirmware]
    simp only [switchedMethod, notWrite, false_and, if_false]
    split <;> rfl
  read := by
    intro state
    exact ⟨_, rfl, by simp [switchedMethod]⟩
  setThresholds := by
    intro arg state subcommand
    rw [evaluation_switchedFirmware]
    simp [switchedMethod, subcommand, switchedHolds]
  setStatus := by
    intro arg state subcommand small
    rw [evaluation_switchedFirmware]
    rcases byte_eq_zero_or_one small with zero | one
    · simp [switchedMethod, subcommand, switchedHolds, zero]
    · simp [switchedMethod, subcommand, switchedHolds, one]
  withoutCc4 := by
    intro state status start stop rest answered
    rw [evaluation_switchedFirmware] at answered
    cases answered

theorem switchedFirmware_eachAccess_correct :
    EachStep (ChargeAccess.step switchedFirmware .wmi)
      (ChargeAccess.Correct switchedFirmware .wmi switchedHolds)
      [.detecting fun _ => none, .storing .startThreshold "57\n" 3,
        .storing .chargeType "Custom" 6, .showing .endThreshold]
      (40, 80, false) :=
  eachAccess_correct (Or.inl switchedFirmware_isLegacy) _ _

end TuxedoDrivers.Clevo
