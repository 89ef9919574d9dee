import TuxedoDrivers.Interaction.Runs
import TuxedoDrivers.Uniwill.DeviceFeatures

/-!
# Snapshots of the device features

A call that loads the features reads six registers.  Once all reads of one
call succeed the features are kept, and they are what that call read.  Until
then a feature is only set where some read or the DMI strings said so.
-/

namespace TuxedoDrivers.Uniwill

open Interaction

/-! ## Where a feature comes from -/

/-- A bit of a register, unless the DMI strings decide. -/
structure FlagSource where
  address : U16
  supported : U8 → Bool
  decided : Option Bool

namespace FlagSource

/-- The accesses have a read that reports so, if one is needed. -/
def Reports (source : FlagSource) (accesses : List EcEvent)
    (status : Bool) : Prop :=
  match source.decided with
  | some known => status = known
  | none =>
      ∃ data, EcEvent.read source.address (.ok data) ∈ accesses ∧
        source.supported data = status

theorem Reports.mono {source : FlagSource} {accesses more : List EcEvent}
    {status : Bool} (reports : source.Reports accesses status)
    (subset : accesses ⊆ more) : source.Reports more status := by
  unfold Reports at *
  split at reports
  · exact reports
  · obtain ⟨data, member, correct⟩ := reports
    exact ⟨data, subset member, correct⟩

end FlagSource

def doublePl4Source : FlagSource :=
  ⟨0x0727, fun data => decide (data &&& (1 <<< 7) ≠ 0), none⟩

def chargingPrioSource (dmi : Dmi) : FlagSource :=
  ⟨0x0742, fun data => decide (data &&& (1 <<< 5) ≠ 0),
    if deviceBeforeFeatureDrop dmi = true then none else some false⟩

def chargingProfileSource (dmi : Dmi) : FlagSource :=
  ⟨0x078e, fun data => decide (data &&& (1 <<< 3) ≠ 0),
    if chargingProfileNotSupported dmi = true then some false else none⟩

def miniLedSource : FlagSource :=
  ⟨0x0d4f, fun data => decide (data ≠ 0xff ∧ data &&& 0x01 ≠ 0), none⟩

def universalFanSource (dmi : Dmi) (model : U8) : FlagSource :=
  ⟨0x078e, fun data => decide ((data >>> 6) &&& 1 = 1),
    if universalFanControlException dmi model = true then some false
    else none⟩

/-- The features that only depend on the DMI strings. -/
structure FromDmi (dmi : Dmi) (features : DeviceFeatures) : Prop where
  twoProfs : features.uniwillProfileV1TwoProfs = profileV1TwoProfs dmi
  threeProfs : features.uniwillProfileV1ThreeProfs = profileV1ThreeProfs dmi
  ledsOnly : features.uniwillProfileV1ThreeProfsLedsOnly =
    profileV1ThreeProfsLedsOnly dmi
  customProfile : features.uniwillCustomProfileModeNeeded =
    customProfileModeNeeded dmi
  acAutoBoot : features.uniwillHasAcAutoBoot =
    isAutoBootAndPowershareSupported dmi
  usbPowershare : features.uniwillHasUsbPowershare =
    isAutoBootAndPowershareSupported dmi
  hiddenBiosOptions : features.uniwillHasHiddenBiosOptions =
    dmiMatchAny dmi (boardNames ["X6AR5xxY", "X6AR5xxY_mLED", "X6AR55xU"])

/-- Every feature is what the accesses or the DMI strings say. -/
structure Snapshot (dmi : Dmi) (accesses : List EcEvent)
    (features : DeviceFeatures) : Prop where
  model : EcEvent.read 0x0740 (.ok features.model) ∈ accesses
  doublePl4 :
    doublePl4Source.Reports accesses features.uniwillHasDoublePl4
  chargingPrio :
    (chargingPrioSource dmi).Reports accesses
      features.uniwillHasChargingPrio
  chargingProfile :
    (chargingProfileSource dmi).Reports accesses
      features.uniwillHasChargingProfile
  miniLed :
    miniLedSource.Reports accesses features.uniwillHasMiniLedLocalDimming
  universalFan :
    (universalFanSource dmi features.model).Reports accesses
      features.uniwillHasUniversalEcFanControl
  profileV1 : features.uniwillProfileV1 =
    (features.uniwillProfileV1TwoProfs || features.uniwillProfileV1ThreeProfs)
  fromDmi : FromDmi dmi features

/-- A feature that is set was found in the accesses or the DMI strings. -/
structure Evidence (dmi : Dmi) (accesses : List EcEvent)
    (features : DeviceFeatures) : Prop where
  doublePl4 : features.uniwillHasDoublePl4 = true →
    doublePl4Source.Reports accesses true
  chargingPrio : features.uniwillHasChargingPrio = true →
    (chargingPrioSource dmi).Reports accesses true
  chargingProfile : features.uniwillHasChargingProfile = true →
    (chargingProfileSource dmi).Reports accesses true
  miniLed : features.uniwillHasMiniLedLocalDimming = true →
    miniLedSource.Reports accesses true
  universalFan : features.uniwillHasUniversalEcFanControl = true →
    ∃ model, (universalFanSource dmi model).Reports accesses true
  profileV1 : features.uniwillProfileV1 = true →
    profileV1TwoProfs dmi = true ∨ profileV1ThreeProfs dmi = true
  fromDmi : features = {} ∨ FromDmi dmi features

/-! ## What one call reads -/

/-- What each read of a call told, `none` where it failed. -/
structure ReadOutcome where
  model : Option U8
  doublePl4 : Option Bool
  chargingPrio : Option Bool
  chargingProfile : Option Bool
  miniLed : Option Bool
  universalFan : Option Bool
  deriving DecidableEq, Repr

namespace ReadOutcome

def complete (outcome : ReadOutcome) : Bool :=
  outcome.model.isSome && outcome.doublePl4.isSome &&
    outcome.chargingPrio.isSome && outcome.chargingProfile.isSome &&
    outcome.miniLed.isSome && outcome.universalFan.isSome

/-- The features after the call. -/
def features (outcome : ReadOutcome) (dmi : Dmi)
    (before : DeviceFeatures) : DeviceFeatures where
  model := outcome.model.getD 0
  uniwillProfileV1 := profileV1TwoProfs dmi || profileV1ThreeProfs dmi
  uniwillProfileV1TwoProfs := profileV1TwoProfs dmi
  uniwillProfileV1ThreeProfs := profileV1ThreeProfs dmi
  uniwillProfileV1ThreeProfsLedsOnly := profileV1ThreeProfsLedsOnly dmi
  uniwillCustomProfileModeNeeded := customProfileModeNeeded dmi
  uniwillHasChargingPrio :=
    outcome.chargingPrio.getD before.uniwillHasChargingPrio
  uniwillHasChargingProfile :=
    outcome.chargingProfile.getD before.uniwillHasChargingProfile
  uniwillHasUniversalEcFanControl :=
    outcome.universalFan.getD before.uniwillHasUniversalEcFanControl
  uniwillHasDoublePl4 := outcome.doublePl4.getD before.uniwillHasDoublePl4
  uniwillHasAcAutoBoot := isAutoBootAndPowershareSupported dmi
  uniwillHasUsbPowershare := isAutoBootAndPowershareSupported dmi
  uniwillHasMiniLedLocalDimming :=
    outcome.miniLed.getD before.uniwillHasMiniLedLocalDimming
  uniwillHasHiddenBiosOptions :=
    dmiMatchAny dmi (boardNames ["X6AR5xxY", "X6AR5xxY_mLED", "X6AR55xU"])

/-- What was told is what the accesses say. -/
structure ReportedBy (outcome : ReadOutcome) (dmi : Dmi)
    (accesses : List EcEvent) : Prop where
  model : ∀ data ∈ outcome.model,
    EcEvent.read 0x0740 (.ok data) ∈ accesses
  doublePl4 : ∀ status ∈ outcome.doublePl4,
    doublePl4Source.Reports accesses status
  chargingPrio : ∀ status ∈ outcome.chargingPrio,
    (chargingPrioSource dmi).Reports accesses status
  chargingProfile : ∀ status ∈ outcome.chargingProfile,
    (chargingProfileSource dmi).Reports accesses status
  miniLed : ∀ status ∈ outcome.miniLed,
    miniLedSource.Reports accesses status
  universalFan : ∀ status ∈ outcome.universalFan,
    (universalFanSource dmi (outcome.model.getD 0)).Reports accesses status

theorem fromDmi_features (outcome : ReadOutcome) (dmi : Dmi)
    (before : DeviceFeatures) :
    FromDmi dmi (outcome.features dmi before) :=
  ⟨rfl, rfl, rfl, rfl, rfl, rfl, rfl⟩

end ReadOutcome

theorem getD_mem_of_isSome {α : Type} {option : Option α}
    (present : option.isSome = true) (default : α) :
    option.getD default ∈ option := by
  cases option with
  | none => cases present
  | some value => rfl

namespace ReadOutcome

variable {outcome : ReadOutcome} {dmi : Dmi} {accesses : List EcEvent}

/-- A complete call gives a snapshot. -/
theorem ReportedBy.snapshot (reported : outcome.ReportedBy dmi accesses)
    (complete : outcome.complete = true) (before : DeviceFeatures) :
    Snapshot dmi accesses (outcome.features dmi before) := by
  simp only [ReadOutcome.complete, Bool.and_eq_true] at complete
  obtain ⟨⟨⟨⟨⟨model, pl4⟩, prio⟩, profile⟩, miniLed⟩, fan⟩ := complete
  exact
    { model := reported.model _ (getD_mem_of_isSome model _)
      doublePl4 := reported.doublePl4 _ (getD_mem_of_isSome pl4 _)
      chargingPrio :=
        reported.chargingPrio _ (getD_mem_of_isSome prio _)
      chargingProfile :=
        reported.chargingProfile _ (getD_mem_of_isSome profile _)
      miniLed := reported.miniLed _ (getD_mem_of_isSome miniLed _)
      universalFan :=
        reported.universalFan _ (getD_mem_of_isSome fan _)
      profileV1 := rfl
      fromDmi := outcome.fromDmi_features dmi before }

/-- A flag that is set after a call was just read or was set before. -/
theorem reports_of_getD {source : FlagSource} {known : List EcEvent}
    {told : Option Bool} {before : Bool}
    (reported : ∀ status ∈ told, source.Reports accesses status)
    (evidence : before = true → source.Reports known true)
    (isSet : told.getD before = true) :
    source.Reports (known ++ accesses) true := by
  cases told with
  | none =>
      exact
        (evidence isSet).mono (List.subset_append_left known accesses)
  | some status =>
      have reports := reported status rfl
      rw [show status = true from isSet] at reports
      exact reports.mono (List.subset_append_right known accesses)

theorem ReportedBy.evidence (reported : outcome.ReportedBy dmi accesses)
    {known : List EcEvent} {before : DeviceFeatures}
    (evidence : Evidence dmi known before) :
    Evidence dmi (known ++ accesses) (outcome.features dmi before) where
  doublePl4 := reports_of_getD reported.doublePl4 evidence.doublePl4
  chargingPrio :=
    reports_of_getD reported.chargingPrio evidence.chargingPrio
  chargingProfile :=
    reports_of_getD reported.chargingProfile evidence.chargingProfile
  miniLed := reports_of_getD reported.miniLed evidence.miniLed
  universalFan := by
    intro isSet
    cases told : outcome.universalFan with
    | none =>
        simp only [features, told, Option.getD_none] at isSet
        obtain ⟨model, reports⟩ := evidence.universalFan isSet
        exact
          ⟨model, reports.mono (List.subset_append_left known accesses)⟩
    | some status =>
        simp only [features, told, Option.getD_some] at isSet
        have reports := reported.universalFan status told
        rw [isSet] at reports
        exact ⟨_, reports.mono (List.subset_append_right known accesses)⟩
  profileV1 := by
    intro isSet
    exact Bool.or_eq_true_iff.mp isSet
  fromDmi := Or.inr (outcome.fromDmi_features dmi before)

end ReadOutcome

/-! ## One call -/

section Call

variable {σ : Type} (device : EcDevice σ)

/-- The variables stay, and a status that is found is reported. -/
def Finds (has : Driver (Except Int Bool)) (source : FlagSource) : Prop :=
  ∀ machine, (device.run has machine).2.1 = machine.1 ∧
    ∀ status, (device.run has machine).1 = .ok status →
      source.Reports (device.trace has machine) status

variable {device}

theorem finds_decided {source : FlagSource} {known : Bool}
    (decided : source.decided = some known) :
    Finds device (pure (.ok known)) source := by
  intro machine
  refine ⟨rfl, fun status found => ?_⟩
  cases found
  simp only [FlagSource.Reports, decided]

theorem finds_hasFeatureBit (source : FlagSource)
    (undecided : source.decided = none) (error : Int → Int) :
    Finds device (hasFeatureBit source.address source.supported error)
      source := by
  intro machine
  cases reply : (device.read source.address machine.2).1 with
  | ok data =>
      constructor
      · simp [hasFeatureBit, reply]
      · intro status found
        have correct : source.supported data = status := by
          simpa [hasFeatureBit, reply] using found
        simp only [FlagSource.Reports, undecided]
        exact ⟨data, by simp [hasFeatureBit, reply], correct⟩
  | fail left =>
      constructor
      · simp [hasFeatureBit, reply]
      · intro status found
        simp [hasFeatureBit, reply] at found

theorem finds_uwHasChargingPriority (dmi : Dmi) :
    Finds device (uwHasChargingPriority dmi) (chargingPrioSource dmi) := by
  unfold uwHasChargingPriority
  split
  case isTrue before =>
    exact finds_hasFeatureBit (chargingPrioSource dmi)
      (if_pos before) fun _ => -eio
  case isFalse after =>
    exact finds_decided (if_neg after)

theorem finds_uwHasChargingProfile (dmi : Dmi) :
    Finds device (uwHasChargingProfile dmi) (chargingProfileSource dmi) := by
  unfold uwHasChargingProfile
  split
  case isTrue unsupported =>
    exact finds_decided (if_pos unsupported)
  case isFalse supported =>
    exact finds_hasFeatureBit (chargingProfileSource dmi)
      (if_neg supported) fun _ => -eio

/-- What a run ends with: its value, the machine and its accesses. -/
private def Ends {α : Type} (device : EcDevice σ) (program : Driver α)
    (machine : Machine σ) (post : α → Machine σ → List EcEvent → Prop) :
    Prop :=
  post (device.run program machine).1 (device.run program machine).2
    (device.trace program machine)

private theorem Ends.bind {α β : Type} {program : Driver α}
    {rest : α → Driver β} {machine : Machine σ}
    {post : β → Machine σ → List EcEvent → Prop}
    {middle : α → Machine σ → List EcEvent → Prop}
    (first : Ends device program machine middle)
    (second : ∀ value reached accesses, middle value reached accesses →
      Ends device (rest value) reached fun last after later =>
        post last after (accesses ++ later)) :
    Ends device (program >>= rest) machine post := by
  have later := second _ _ _ first
  unfold Ends at later ⊢
  rwa [run_bind, trace_bind]

/-- A feature is assigned if it was found, and else the features are not
loaded. -/
private theorem ends_loadFeature {has : Driver (Except Int Bool)}
    {source : FlagSource} (finds : Finds device has source)
    (view : DeviceFeatures → Bool)
    {assign : Bool → DeviceFeatures → DeviceFeatures}
    (restores : ∀ features, assign (view features) features = features)
    (loaded : Bool) (machine : Machine σ) :
    Ends device (loadFeature has assign loaded) machine
      fun loaded' reached accesses => ∃ told : Option Bool, ∃ ec,
        loaded' = (loaded && told.isSome) ∧
        reached =
          ({ machine.1 with
              uniwillDeviceFeatures :=
                assign (told.getD (view machine.1.uniwillDeviceFeatures))
                  machine.1.uniwillDeviceFeatures }, ec) ∧
        ∀ status ∈ told, source.Reports accesses status := by
  obtain ⟨same, reported⟩ := finds machine
  unfold Ends
  cases found : (device.run has machine).1 with
  | ok status =>
      refine ⟨some status, (device.run has machine).2.2, ?_, ?_, ?_⟩
      · simp [loadFeature, found]
      · simp [loadFeature, found, setFeatures, same]
      · intro other here
        cases here
        refine (reported status found).mono ?_
        simp [loadFeature]
  | error code =>
      refine ⟨none, (device.run has machine).2.2, ?_, ?_, ?_⟩
      · simp [loadFeature, found]
      · simp [loadFeature, found, ← same, restores]
      · intro other here
        cases here

/-- What only the DMI strings tell is always found. -/
private theorem ends_loadFeature_pure (status : Bool)
    (assign : Bool → DeviceFeatures → DeviceFeatures) (loaded : Bool)
    (machine : Machine σ) :
    Ends device (loadFeature (pure (.ok status)) assign loaded) machine
      fun loaded' reached accesses =>
        loaded' = loaded ∧
        reached =
          ({ machine.1 with
              uniwillDeviceFeatures :=
                assign status machine.1.uniwillDeviceFeatures },
            machine.2) ∧
        accesses = [] :=
  ⟨rfl, rfl, rfl⟩

private theorem ends_loadModel (machine : Machine σ) :
    Ends device loadModel machine
      fun loaded reached accesses => ∃ told : Option U8, ∃ ec,
        loaded = told.isSome ∧
        reached =
          ({ machine.1 with
              uniwillDeviceFeatures :=
                { machine.1.uniwillDeviceFeatures with
                  model := told.getD 0 } }, ec) ∧
        ∀ data ∈ told, EcEvent.read 0x0740 (.ok data) ∈ accesses := by
  unfold Ends
  cases reply : (device.read 0x0740 machine.2).1 with
  | ok data =>
      have run :
          device.run loadModel machine =
            (true,
              { machine.1 with
                uniwillDeviceFeatures :=
                  { machine.1.uniwillDeviceFeatures with model := data } },
              (device.read 0x0740 machine.2).2) := by
        simp only [loadModel, run_bind, run_uniwillReadEcRam, reply,
          EcRead.status_ok, ne_eq, not_true_eq_false, if_false, setFeatures,
          run_setStatics, EcRead.data_ok, run_pure]
      refine
        ⟨some data, (device.read 0x0740 machine.2).2, congrArg Prod.fst run,
          congrArg Prod.snd run, ?_⟩
      intro other here
      cases here
      simp only [loadModel, trace_bind, trace_uniwillReadEcRam, reply,
        List.mem_append, List.mem_singleton, true_or]
  | fail left =>
      have failed : -eio ≠ 0 := by decide
      have run :
          device.run loadModel machine =
            (false,
              { machine.1 with
                uniwillDeviceFeatures :=
                  { machine.1.uniwillDeviceFeatures with model := 0 } },
              (device.read 0x0740 machine.2).2) := by
        simp only [loadModel, run_bind, run_uniwillReadEcRam, reply,
          EcRead.status_fail, if_pos failed, setFeatures, run_setStatics,
          run_pure]
      refine
        ⟨none, (device.read 0x0740 machine.2).2, congrArg Prod.fst run,
          congrArg Prod.snd run, ?_⟩
      intro other here
      cases here

private abbrev hasUniversalFan (features : DeviceFeatures) : Bool :=
  features.uniwillHasUniversalEcFanControl

/-- The register is only read for a machine that is no exception. -/
private theorem run_hasUniversalEcFanControl (device : EcDevice σ)
    (dmi : Dmi) (machine : Machine σ) :
    device.run (hasUniversalEcFanControl dmi) machine =
      if universalFanControlException dmi
          machine.1.uniwillDeviceFeatures.model = true then
        (0, machine.1, machine.2)
      else
        (match (device.read 0x078e machine.2).1 with
          | .ok data => (((data >>> 6) &&& 1).toNat : Int)
          | .fail _ => -eio,
          machine.1, (device.read 0x078e machine.2).2) := by
  have negative : -eio < 0 := by decide
  by_cases exception :
      universalFanControlException dmi
        machine.1.uniwillDeviceFeatures.model = true
  · simp only [hasUniversalEcFanControl, run_bind, run_getStatics,
      exception, if_true, run_pure]
  · cases reply : (device.read 0x078e machine.2).1 with
    | ok data =>
        simp only [hasUniversalEcFanControl, run_bind, run_getStatics,
          exception, Bool.false_eq_true, run_uniwillReadEcRam, reply,
          EcRead.status_ok, Int.lt_irrefl, if_false, run_pure,
          EcRead.data_ok]
    | fail left =>
        simp only [hasUniversalEcFanControl, run_bind, run_getStatics,
          exception, Bool.false_eq_true, run_uniwillReadEcRam, reply,
          EcRead.status_fail, negative, if_true, if_false, run_pure]

/-- What is assigned for each result. -/
private theorem ends_assignUniversalFan {dmi : Dmi} (loaded : Bool)
    {machine : Machine σ} {result : Int} {ec : σ}
    (run : device.run (hasUniversalEcFanControl dmi) machine =
      (result, machine.1, ec)) :
    Ends device (loadUniversalEcFanControl dmi loaded) machine
      fun loaded' reached accesses =>
        device.trace (hasUniversalEcFanControl dmi) machine ⊆ accesses ∧
        if result < 0 then loaded' = false ∧ reached = (machine.1, ec)
        else
          loaded' = loaded ∧
          reached =
            ({ machine.1 with
                uniwillDeviceFeatures :=
                  { machine.1.uniwillDeviceFeatures with
                    uniwillHasUniversalEcFanControl :=
                      decide (result = 1) } }, ec) := by
  refine ⟨?_, ?_⟩
  · simp [loadUniversalEcFanControl]
  · simp only [loadUniversalEcFanControl, run_bind, run]
    split
    · exact ⟨rfl, rfl⟩
    · simp only [setFeatures, run_bind, run_setStatics, run_pure, and_self]

/-- The model decides with the DMI strings whether the register is read. -/
private theorem ends_loadUniversalEcFanControl (dmi : Dmi) (loaded : Bool)
    (machine : Machine σ) :
    Ends device (loadUniversalEcFanControl dmi loaded) machine
      fun loaded' reached accesses => ∃ told : Option Bool, ∃ ec,
        loaded' = (loaded && told.isSome) ∧
        reached =
          ({ machine.1 with
              uniwillDeviceFeatures :=
                { machine.1.uniwillDeviceFeatures with
                  uniwillHasUniversalEcFanControl :=
                    told.getD
                      (hasUniversalFan
                        machine.1.uniwillDeviceFeatures) } }, ec) ∧
        ∀ status ∈ told,
          (universalFanSource dmi
            machine.1.uniwillDeviceFeatures.model).Reports accesses
              status := by
  have run := run_hasUniversalEcFanControl device dmi machine
  by_cases exception :
      universalFanControlException dmi
        machine.1.uniwillDeviceFeatures.model = true
  · rw [if_pos exception] at run
    obtain ⟨-, loaded, reached⟩ :=
      ends_assignUniversalFan loaded run
    refine ⟨some false, machine.2, ?_, ?_, ?_⟩
    · simpa using loaded
    · exact reached
    · intro status here
      cases here
      simp only [FlagSource.Reports, universalFanSource, exception, if_true]
  · rw [if_neg exception] at run
    obtain ⟨subset, ends⟩ := ends_assignUniversalFan loaded run
    cases reply : (device.read 0x078e machine.2).1 with
    | ok data =>
        have bit :
            decide ((((data >>> 6) &&& 1).toNat : Int) = 1) =
              decide ((data >>> 6) &&& 1 = 1) := by
          rw [decide_eq_decide, ← BitVec.toNat_inj]
          change _ ↔ _ = 1
          omega
        have notNegative : ¬ (((data >>> 6) &&& 1).toNat : Int) < 0 := by
          omega
        simp only [reply] at ends
        rw [if_neg notNegative, bit] at ends
        obtain ⟨loaded, reached⟩ := ends
        refine
          ⟨some (decide ((data >>> 6) &&& 1 = 1)),
            (device.read 0x078e machine.2).2, ?_, reached, ?_⟩
        · simpa using loaded
        · intro status here
          cases here
          simp only [FlagSource.Reports, universalFanSource, exception,
            Bool.false_eq_true, if_false]
          refine ⟨data, subset ?_, rfl⟩
          simp only [hasUniversalEcFanControl, trace_bind, trace_getStatics,
            run_getStatics, exception, Bool.false_eq_true, if_false,
            trace_uniwillReadEcRam, reply, List.nil_append,
            List.mem_append, List.mem_singleton, true_or]
    | fail left =>
        have negative : -eio < 0 := by decide
        simp only [reply] at ends
        rw [if_pos negative] at ends
        obtain ⟨loaded, reached⟩ := ends
        refine ⟨none, (device.read 0x078e machine.2).2, ?_, reached, ?_⟩
        · simpa using loaded
        · intro status here
          cases here

private theorem ends_setFeatures (update : DeviceFeatures → DeviceFeatures)
    (statics : DriverState) (ec : σ) :
    Ends device (setFeatures update) (statics, ec)
      fun _ reached accesses =>
        reached =
          ({ statics with
              uniwillDeviceFeatures :=
                update statics.uniwillDeviceFeatures }, ec) ∧
        accesses = [] :=
  ⟨rfl, rfl⟩

/-- A call fills the features from what its reads told. -/
theorem ends_loadDeviceFeatures (device : EcDevice σ) (dmi : Dmi)
    (machine : Machine σ) :
    ∃ outcome : ReadOutcome,
      (device.run (loadDeviceFeatures dmi) machine).2.1 =
        { machine.1 with
          uniwillDeviceFeatures :=
            outcome.features dmi machine.1.uniwillDeviceFeatures
          uwFeatsLoaded := outcome.complete } ∧
      outcome.ReportedBy dmi
        (device.trace (loadDeviceFeatures dmi) machine) := by
  change
    Ends device (loadDeviceFeatures dmi) machine
      fun _ reached accesses => ∃ outcome : ReadOutcome,
        reached.1 =
          { machine.1 with
            uniwillDeviceFeatures :=
              outcome.features dmi machine.1.uniwillDeviceFeatures
            uwFeatsLoaded := outcome.complete } ∧
        outcome.ReportedBy dmi accesses
  refine (ends_loadModel _).bind ?_
  rintro _ _ accesses0 ⟨model, ec0, rfl, rfl, reports0⟩
  refine (ends_setFeatures _ _ _).bind ?_
  rintro _ _ _ ⟨rfl, rfl⟩
  unfold loadEcFeatures
  refine (ends_loadFeature (finds_hasFeatureBit doublePl4Source rfl id)
    (fun features => features.uniwillHasDoublePl4) (fun _ => rfl) _
    _).bind ?_
  rintro _ _ accesses1 ⟨pl4, ec1, rfl, rfl, reports1⟩
  refine (ends_setFeatures _ _ _).bind ?_
  rintro _ _ _ ⟨rfl, rfl⟩
  refine (ends_loadFeature (finds_uwHasChargingPriority dmi)
    (fun features => features.uniwillHasChargingPrio) (fun _ => rfl) _
    _).bind ?_
  rintro _ _ accesses2 ⟨prio, ec2, rfl, rfl, reports2⟩
  refine (ends_loadFeature (finds_uwHasChargingProfile dmi)
    (fun features => features.uniwillHasChargingProfile) (fun _ => rfl) _
    _).bind ?_
  rintro _ _ accesses3 ⟨profile, ec3, rfl, rfl, reports3⟩
  refine (ends_loadFeature_pure _ _ _ _).bind ?_
  rintro _ _ _ ⟨rfl, rfl, rfl⟩
  refine (ends_loadFeature_pure _ _ _ _).bind ?_
  rintro _ _ _ ⟨rfl, rfl, rfl⟩
  refine (ends_loadFeature (finds_hasFeatureBit miniLedSource rfl id)
    (fun features => features.uniwillHasMiniLedLocalDimming) (fun _ => rfl) _
    _).bind ?_
  rintro _ _ accesses4 ⟨miniLed, ec4, rfl, rfl, reports4⟩
  refine (ends_loadFeature_pure _ _ _ _).bind ?_
  rintro _ _ _ ⟨rfl, rfl, rfl⟩
  refine (ends_loadUniversalEcFanControl dmi _ _).bind ?_
  rintro _ _ accesses5 ⟨fan, ec5, rfl, rfl, reports5⟩
  refine
    ⟨{ model := model, doublePl4 := pl4, chargingPrio := prio
       chargingProfile := profile, miniLed := miniLed
       universalFan := fan }, rfl, ?_⟩
  simp only [List.nil_append]
  refine
    { model := fun data told => ?_
      doublePl4 := fun status told => (reports1 status told).mono ?_
      chargingPrio := fun status told => (reports2 status told).mono ?_
      chargingProfile := fun status told => (reports3 status told).mono ?_
      miniLed := fun status told => (reports4 status told).mono ?_
      universalFan := fun status told => (reports5 status told).mono ?_ }
  · exact List.mem_append_left _ (reports0 data told)
  all_goals
    intro access member
    simp only [List.mem_append, member, true_or, or_true]

end Call

/-! ## Sequences of calls -/

/-- The driver and the EC, with the accesses of each call so far. -/
structure LoadHistory (σ : Type) where
  machine : Machine σ
  calls : List (List EcEvent)

/-- A call, or a change of what the EC holds. -/
inductive LoadStep (σ : Type) where
  | call
  | ecChange (change : σ → σ)

section Sequences

variable {σ : Type} (device : EcDevice σ) (dmi : Dmi)

def LoadHistory.step : LoadStep σ → LoadHistory σ → LoadHistory σ
  | .call, history =>
      { machine :=
          (device.run (uniwillGetDeviceFeatures dmi) history.machine).2
        calls := history.calls ++
          [device.trace (uniwillGetDeviceFeatures dmi) history.machine] }
  | .ecChange change, history =>
      { history with
        machine := (history.machine.1, change history.machine.2) }

abbrev LoadHistory.features (history : LoadHistory σ) : DeviceFeatures :=
  history.machine.1.uniwillDeviceFeatures

abbrev LoadHistory.loaded (history : LoadHistory σ) : Bool :=
  history.machine.1.uwFeatsLoaded

/-- The features have their reasons. -/
structure Justified (history : LoadHistory σ) : Prop where
  evidence : Evidence dmi history.calls.flatten history.features
  snapshot : history.loaded = true →
    ∃ accesses ∈ history.calls, Snapshot dmi accesses history.features

theorem call_of_loaded {machine : Machine σ}
    (loaded : machine.1.uwFeatsLoaded = true) :
    (device.run (uniwillGetDeviceFeatures dmi) machine).2 = machine ∧
      device.trace (uniwillGetDeviceFeatures dmi) machine = [] := by
  simp [uniwillGetDeviceFeatures, loaded]

theorem call_of_not_loaded {machine : Machine σ}
    (notLoaded : machine.1.uwFeatsLoaded ≠ true) :
    (device.run (uniwillGetDeviceFeatures dmi) machine).2 =
        (device.run (loadDeviceFeatures dmi) machine).2 ∧
      device.trace (uniwillGetDeviceFeatures dmi) machine =
        device.trace (loadDeviceFeatures dmi) machine := by
  simp [uniwillGetDeviceFeatures, notLoaded]

variable {dmi}

theorem justified_step (step : LoadStep σ) (history : LoadHistory σ)
    (justified : Justified dmi history) :
    Justified dmi (LoadHistory.step device dmi step history) := by
  cases step with
  | ecChange change =>
      exact ⟨justified.evidence, justified.snapshot⟩
  | call =>
      by_cases loaded : history.loaded = true
      · obtain ⟨run, trace⟩ := call_of_loaded device dmi loaded
        simp only [LoadHistory.step, run, trace]
        constructor
        · rw [List.flatten_append, List.flatten_singleton, List.append_nil]
          exact justified.evidence
        · intro still
          obtain ⟨accesses, member, snapshot⟩ := justified.snapshot still
          exact ⟨accesses, List.mem_append_left _ member, snapshot⟩
      · obtain ⟨run, trace⟩ := call_of_not_loaded device dmi loaded
        obtain ⟨outcome, ends, reported⟩ :=
          ends_loadDeviceFeatures device dmi history.machine
        simp only [LoadHistory.step, run, trace]
        constructor
        · simp only [LoadHistory.features, List.flatten_append,
            List.flatten_singleton, ends]
          exact reported.evidence justified.evidence
        · intro complete
          simp only [LoadHistory.loaded, ends] at complete
          refine ⟨_, List.mem_append_right _ (List.mem_singleton_self _), ?_⟩
          simp only [LoadHistory.features, ends]
          exact reported.snapshot complete history.features

/-- What a loaded driver does: no access, no change. -/
structure StillLoaded (loaded after : LoadHistory σ) : Prop where
  statics : after.machine.1 = loaded.machine.1
  calls : ∃ more, after.calls = loaded.calls ++ more ∧
    ∀ accesses ∈ more, accesses = []

theorem stillLoaded_step {history after : LoadHistory σ}
    (loaded : history.loaded = true) (still : StillLoaded history after)
    (step : LoadStep σ) :
    StillLoaded history (LoadHistory.step device dmi step after) := by
  obtain ⟨statics, more, calls, empty⟩ := still
  cases step with
  | ecChange change =>
      exact ⟨statics, more, calls, empty⟩
  | call =>
      have loadedAfter : after.machine.1.uwFeatsLoaded = true := by
        rw [statics]
        exact loaded
      obtain ⟨run, trace⟩ := call_of_loaded device dmi loadedAfter
      simp only [LoadHistory.step, run, trace]
      refine ⟨statics, more ++ [[]], ?_, ?_⟩
      · simp only [calls, List.append_assoc]
      · intro accesses member
        rcases List.mem_append.mp member with before | last
        · exact empty accesses before
        · exact List.mem_singleton.mp last

/-- Loaded features are what one call read, and they stay.  Before that
every feature that is set has been found somewhere. -/
theorem features_snapshot (device : EcDevice σ) (dmi : Dmi)
    (fan : FanStatics) (settings : SettingStatics) (leds : LedStatics)
    (ec : σ) (steps later : List (LoadStep σ)) :
    let history :=
      runSteps (LoadHistory.step device dmi) steps
        ⟨(⟨{}, false, fan, settings, leds⟩, ec), []⟩
    let after := runSteps (LoadHistory.step device dmi) later history
    (history.loaded = true →
      (∃ accesses ∈ history.calls,
        Snapshot dmi accesses history.features) ∧
      after.loaded = true ∧ after.features = history.features ∧
      ∃ more, after.calls = history.calls ++ more ∧
        ∀ accesses ∈ more, accesses = []) ∧
    (history.loaded = false →
      Evidence dmi history.calls.flatten history.features) := by
  intro history after
  have initially :
      Justified dmi
        (⟨(⟨{}, false, fan, settings, leds⟩, ec), []⟩ : LoadHistory σ) := by
    constructor
    · constructor
      case fromDmi => exact Or.inl rfl
      all_goals
        intro isSet
        cases isSet
    · intro loaded
      cases loaded
  have justified : Justified dmi history :=
    runSteps_preserves _ (Justified dmi)
      (fun step reached => justified_step device step reached) steps
      initially
  constructor
  · intro loaded
    have still : StillLoaded history after :=
      runSteps_preserves _ (StillLoaded history)
        (fun step reached still =>
          stillLoaded_step device loaded still step) later
        ⟨rfl, [], by rw [List.append_nil], by simp⟩
    obtain ⟨statics, calls⟩ := still
    refine ⟨justified.snapshot loaded, ?_, ?_, calls⟩
    · exact (congrArg DriverState.uwFeatsLoaded statics).trans loaded
    · exact congrArg DriverState.uniwillDeviceFeatures statics
  · intro _
    exact justified.evidence

end Sequences

end TuxedoDrivers.Uniwill
