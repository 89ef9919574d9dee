import TuxedoDrivers.Io.IoctlAccesses
import TuxedoDrivers.Uniwill.Frames
import TuxedoDrivers.Uniwill.RamInvariants
import TuxedoDrivers.Uniwill.SettingRuns

/-!
# Processes that use the ioctl interface at a time

`tuxedo_io` has no lock, so the accesses of processes come between each other,
and any access to the EC can fail.  `R_HWCHECK_UW` of one process may replace
the features and the tables that another one is just using.  What processes
bring into the EC RAM is bounded nevertheless: it reaches the registers of the
fans and the three of the TDP limits, and the first two limits stay within
the tables unless a failing read of the model takes the tables away.
-/

namespace TuxedoDrivers.Io.Ioctl

open Interaction Uniwill

/-! ## What the variables may hold -/

/-- What `model` can hold: 0, what it held before, what stands in the
register, or what a read of it leaves that fails. -/
def ModelShown {σ : Type} (device : EcDevice σ) (initial register : U8)
    (model : U8) : Prop :=
  model = 0 ∨ model = initial ∨ model = register ∨
    ∃ state, (device.read 0x0740 state).1 = .fail model

section Shown

variable (shown : U8 → Prop) (dmi : Dmi) (before : Ram)

/-- `uw_feats` is set, and each pointer is what `uw_id_tdp` assigns for a
model that the features can hold. -/
structure Identified (statics : IoStatics) : Prop where
  features : statics.uwFeats = true
  minDefs : ∃ model, shown model ∧
    statics.tdpMinDefs = (uwIdTdp model dmi).min
  maxDefs : ∃ model, shown model ∧
    statics.tdpMaxDefs = (uwIdTdp model dmi).max

/-- What `uw_set_tdp` takes, when each of its looks at the tables may find
those for another model. -/
def AcceptedAtLooks (tdpIndex : U8) (tdpValue : Int) : Prop :=
  ∃ support lowest highest,
    (shown support ∧ shown lowest ∧ shown highest) ∧
      0 ≤ uwGetTdpMin (uwIdTdp support dmi) tdpIndex ∧
      uwGetTdpMin (uwIdTdp lowest dmi) tdpIndex ≤ tdpValue ∧
      tdpValue ≤ uwGetTdpMax (uwIdTdp highest dmi) tdpIndex

/-- The byte of a limit that `uw_set_tdp` takes. -/
def TdpByte (address : U16) (data : U8) : Prop :=
  ∃ tdpIndex tdpValue features,
    AcceptedAtLooks shown dmi tdpIndex tdpValue ∧
      address = tdpCurrentAddr tdpIndex ∧
      data = BitVec.ofInt 8 (tdpToWrite features tdpIndex tdpValue)

/-- What was there before, anything in a register of the fans, or a limit. -/
def IoAllowed (address : U16) (data : U8) : Prop :=
  data = before address ∨ FanControlRegister address ∨
    TdpByte shown dmi address data

/-! ## What is relied on and what is guaranteed -/

def modelShown (statics : DriverState) : Prop :=
  shown statics.uniwillDeviceFeatures.model

/-- What the driver is shown; whether a read of the model fails or not, it
leaves one that the features can hold. -/
def DriverShows : (request : UniwillRequest) → request.Answer → Prop
  | .readEcRam address, outcome =>
      (∀ data, outcome = .ok data → IoAllowed shown dmi before address data) ∧
        (address = 0x0740 → shown outcome.data)
  | .writeEcRam _ _, _ => True
  | .statics _, statics => modelShown shown statics

def DriverKeeps : UniwillRequest → Prop :=
  WritesAllowed (IoAllowed shown dmi before) (modelShown shown)

/-- What the module is shown. -/
def IoShows : (request : IoRequest) → request.Answer → Prop
  | .kernel _, _ => True
  | .features uwFeats, features => uwFeats = true → shown features.model
  | .statics _, statics => Identified shown dmi statics

def IoKeeps : IoRequest → Prop
  | .kernel (.uniwillWriteEcRam address _) => FanControlRegister address
  | .kernel _ => True
  | .features _ => True
  | .statics update => ∀ statics,
      Identified shown dmi statics → Identified shown dmi (update statics)

def AccessShows :
    (request : accessSignature.Request) →
      accessSignature.Answer request → Prop
  | .inl request, answer => IoShows shown dmi request answer
  | .inr request, answer => DriverShows shown dmi before request answer

def AccessKeeps : accessSignature.Request → Prop
  | .inl request => IoKeeps shown dmi request
  | .inr request => DriverKeeps shown dmi before request

end Shown

/-! ## The driver -/

section Driver

variable {shown : U8 → Prop} {dmi : Dmi} {before : Ram} {α : Type}

/-- The accesses bring only what is allowed into the RAM and the variables. -/
abbrev KeepsAccesses (shown : U8 → Prop) (dmi : Dmi) (before : Ram)
    (post : α → Prop) (program : Accesses α) : Prop :=
  program.Guarantees (S := accessSignature) (AccessShows shown dmi before)
    (AccessKeeps shown dmi before) post

theorem keepsAccesses_of_keepsAllowed {post : α → Prop}
    {program : Driver α}
    (keeps : KeepsAllowed (IoAllowed shown dmi before) (modelShown shown)
      post program) :
    KeepsAccesses shown dmi before post program.inr := by
  apply keeps.inr
  · intro request answer shows
    cases request with
    | readEcRam address => exact shows.1
    | writeEcRam address data => trivial
    | statics update => exact shows
  · exact fun _ allowed => allowed

theorem keepsAccesses_of_confined {program : Driver α}
    (asks : program.Asks (Confined FanControlRegister beyondFans)) :
    KeepsAccesses shown dmi before (fun _ => True) program.inr := by
  apply keepsAccesses_of_keepsAllowed
  apply keepsAllowed_of_confined asks
  · exact fun address data isFan => Or.inr (Or.inl isFan)
  · intro first second same isShown
    have features : (beyondFans first).uniwillDeviceFeatures =
        (beyondFans second).uniwillDeviceFeatures :=
      congrArg DriverState.uniwillDeviceFeatures same
    change shown (beyondFans first).uniwillDeviceFeatures.model
    rw [features]
    exact isShown

theorem uwSetPerformanceProfileV1_keepsAccesses (profile : U32) :
    KeepsAccesses shown dmi before (fun _ => True)
      (uwSetPerformanceProfileV1 profile).inr := by
  apply keepsAccesses_of_keepsAllowed
  apply keepsAllowed_of_ecRequests (uwSetPerformanceProfileV1_asks profile)
  rintro address data rfl
  exact Or.inr (Or.inl (Or.inl rfl))

theorem uniwillReadEcRam_keepsAccesses (address : U16) :
    KeepsAccesses shown dmi before (fun _ => True)
      (uniwillReadEcRam address).inr :=
  ⟨trivial, fun _ _ => trivial⟩

theorem uniwillWriteEcRam_keepsAccesses {address : U16} {data : U8}
    (isAllowed : IoAllowed shown dmi before address data) :
    KeepsAccesses shown dmi before (fun _ => True)
      (uniwillWriteEcRam address data).inr :=
  keepsAccesses_of_keepsAllowed (keepsAllowed_write isAllowed)

section Load

/-- The same of code of the driver. -/
abbrev KeepsShown (shown : U8 → Prop) (dmi : Dmi) (before : Ram)
    (post : α → Prop) (program : Driver α) : Prop :=
  program.Guarantees (S := uniwillSignature) (DriverShows shown dmi before)
    (DriverKeeps shown dmi before) post

theorem getStatics_keepsShown :
    KeepsShown shown dmi before (fun _ => True) Uniwill.getStatics :=
  ⟨fun _ isShown => isShown, fun _ _ => trivial⟩

theorem setFeatures_keepsShown {update : DeviceFeatures → DeviceFeatures}
    (keeps : ∀ features : DeviceFeatures, shown features.model →
      shown (update features).model) :
    KeepsShown shown dmi before (fun _ => True) (setFeatures update) :=
  ⟨fun statics => keeps statics.uniwillDeviceFeatures,
    fun _ _ => trivial⟩

/-- A read that fails shows its byte, and 0 takes its place. -/
theorem loadModel_keepsShown (zero : shown 0) :
    KeepsShown shown dmi before (fun _ => True) loadModel := by
  have read : KeepsShown shown dmi before (fun reply => shown reply.data)
      (uniwillReadEcRam 0x0740) :=
    ⟨trivial, fun _ shows => shows.2 rfl⟩
  apply read.bind
  intro reply isShown
  apply (setFeatures_keepsShown fun _ _ => isShown).bind
  intro _ _
  apply Program.Guarantees.ite
  · intro _
    apply (setFeatures_keepsShown fun _ _ => zero).bind
    exact fun _ _ => trivial
  · exact fun _ => trivial

theorem loadEcFeatures_keepsShown (loaded : Bool) :
    KeepsShown shown dmi before (fun _ => True)
      (loadEcFeatures dmi loaded) := by
  apply Program.Asks.guarantees
  apply (loadEcFeatures_asks dmi loaded).mono
  intro request isLoad
  cases request with
  | readEcRam address => trivial
  | writeEcRam address data => exact isLoad.elim
  | statics update =>
      intro statics isShown
      have same : (update statics).uniwillDeviceFeatures.model =
          statics.uniwillDeviceFeatures.model :=
        congrArg (fun view => view.2.2) (isLoad statics)
      rw [modelShown, same]
      exact isShown

theorem uniwillGetDeviceFeatures_keepsAccesses (zero : shown 0) :
    KeepsAccesses shown dmi before (fun _ => True)
      (uniwillGetDeviceFeatures dmi).inr := by
  have load : KeepsShown shown dmi before (fun _ => True)
      (loadDeviceFeatures dmi) := by
    apply (loadModel_keepsShown zero).bind
    intro loaded _
    apply (setFeatures_keepsShown fun _ isShown => isShown).bind
    exact fun _ _ => loadEcFeatures_keepsShown loaded
  have whole : KeepsShown shown dmi before (fun _ => True)
      (uniwillGetDeviceFeatures dmi) := by
    apply getStatics_keepsShown.bind
    intro _ _
    apply Program.Guarantees.ite
    · exact fun _ => trivial
    · intro _
      apply load.bind
      intro _ _
      exact getStatics_keepsShown.bind fun _ _ => trivial
  exact whole.inr (fun _ _ shows => shows) fun _ keeps => keeps

end Load

end Driver

/-! ## The calls -/

section Calls

variable {shown : U8 → Prop} {dmi : Dmi} {before : Ram}

/-- While the variables are what is known of them, the module makes only
requests that keep them so. -/
abbrev KeepsIo {α : Type} (shown : U8 → Prop) (dmi : Dmi)
    (post : α → Prop) (program : Handler α) : Prop :=
  program.Guarantees (S := ioSignature) (IoShows shown dmi)
    (IoKeeps shown dmi) post

theorem keepsAccesses_of_keepsIo {α : Type} {post : α → Prop}
    {program : Handler α} (keeps : KeepsIo shown dmi post program) :
    KeepsAccesses shown dmi before post program.inl :=
  keeps.inl (fun _ _ shows => shows) fun _ allowed => allowed

theorem getStatics_keepsIo :
    KeepsIo shown dmi (Identified shown dmi) getStatics :=
  ⟨fun _ identified => identified, fun _ identified => identified⟩

theorem derefUwFeats_keepsIo :
    KeepsIo shown dmi (fun features => shown features.model)
      derefUwFeats := by
  apply getStatics_keepsIo.bind
  intro statics identified
  constructor
  · trivial
  · intro features isShown
    exact isShown identified.features

theorem getTdpMin_keepsIo (tdpIndex : U8) :
    KeepsIo shown dmi
      (fun tdpMin => ∃ model, shown model ∧
        tdpMin = uwGetTdpMin (uwIdTdp model dmi) tdpIndex)
      (getTdpMin tdpIndex) := by
  apply getStatics_keepsIo.bind
  intro statics identified
  obtain ⟨model, isShown, minDefs⟩ := identified.minDefs
  refine ⟨model, isShown, ?_⟩
  rw [uwGetTdpMin, IoStatics.tdpDefs, minDefs]
  rfl

theorem getTdpMax_keepsIo (tdpIndex : U8) :
    KeepsIo shown dmi
      (fun tdpMax => ∃ model, shown model ∧
        tdpMax = uwGetTdpMax (uwIdTdp model dmi) tdpIndex)
      (getTdpMax tdpIndex) := by
  apply getStatics_keepsIo.bind
  intro statics identified
  obtain ⟨model, isShown, maxDefs⟩ := identified.maxDefs
  refine ⟨model, isShown, ?_⟩
  rw [uwGetTdpMax, IoStatics.tdpDefs, maxDefs]
  rfl

theorem tdpData_keepsIo (tdpIndex : U8) (tdpValue : Int) :
    KeepsIo shown dmi
      (fun data => ∃ features,
        data = BitVec.ofInt 8 (tdpToWrite features tdpIndex tdpValue))
      (tdpData tdpIndex tdpValue) := by
  apply Program.Guarantees.ite
  · intro _
    apply derefUwFeats_keepsIo.bind
    exact fun features _ => ⟨features, rfl⟩
  · intro notThird
    refine ⟨{}, ?_⟩
    rw [tdpToWrite_of_ne notThird]

/-- A limit is written once the looks at the tables let it pass. -/
theorem writeTdpAccesses_keeps (tdpIndex : U8) (tdpValue : Int) :
    KeepsAccesses shown dmi before (fun _ => True)
      (writeTdpAccesses tdpIndex tdpValue) := by
  apply (keepsAccesses_of_keepsIo (getTdpMin_keepsIo tdpIndex)).bind
  rintro _ ⟨support, supportShown, rfl⟩
  apply Program.Guarantees.ite
  · exact fun _ => trivial
  · intro supported
    apply (keepsAccesses_of_keepsIo (getTdpMin_keepsIo tdpIndex)).bind
    rintro _ ⟨lowest, lowestShown, rfl⟩
    apply (keepsAccesses_of_keepsIo (getTdpMax_keepsIo tdpIndex)).bind
    rintro _ ⟨highest, highestShown, rfl⟩
    apply Program.Guarantees.ite
    · exact fun _ => trivial
    · intro inside
      have accepted : AcceptedAtLooks shown dmi tdpIndex tdpValue :=
        ⟨support, lowest, highest,
          ⟨supportShown, lowestShown, highestShown⟩,
          by omega, by omega, by omega⟩
      apply (keepsAccesses_of_keepsIo
        (tdpData_keepsIo tdpIndex tdpValue)).bind
      rintro _ ⟨features, rfl⟩
      have isLimit : IoAllowed shown dmi before (tdpCurrentAddr tdpIndex)
          (BitVec.ofInt 8 (tdpToWrite features tdpIndex tdpValue)) :=
        Or.inr (Or.inr
          ⟨tdpIndex, tdpValue, features, accepted, rfl, rfl⟩)
      apply (uniwillWriteEcRam_keepsAccesses isLimit).bind
      exact fun _ _ => trivial

theorem uwSetTdpAccesses_keeps (tdpIndex : U8) (tdpValue : Int) :
    KeepsAccesses shown dmi before (fun _ => True)
      (uwSetTdpAccesses tdpIndex tdpValue) := by
  have written : KeepsAccesses shown dmi before (fun _ => True)
      (writeTdpAccesses tdpIndex tdpValue) :=
    writeTdpAccesses_keeps tdpIndex tdpValue
  apply (keepsAccesses_of_keepsIo derefUwFeats_keepsIo).bind
  intro features _
  apply Program.Guarantees.ite
  · intro _
    apply (uwSetPerformanceProfileV1_keepsAccesses profileOverboost).bind
    exact fun _ _ => written
  · exact fun _ => written

/-- The accesses of a request guarantee what is relied on of its answer. -/
theorem accesses_keep (zero : shown 0) {request : IoRequest}
    (keeps : IoKeeps shown dmi request) :
    KeepsAccesses shown dmi before (IoShows shown dmi request)
      (accesses dmi request) := by
  cases request with
  | features uwFeats => exact ⟨keeps, fun _ shows => shows⟩
  | statics update => exact ⟨keeps, fun _ shows => shows⟩
  | kernel request =>
      cases request
      case uniwillGetDeviceFeatures =>
        exact (uniwillGetDeviceFeatures_keepsAccesses zero).map _
      case uniwillReadEcRam address =>
        exact uniwillReadEcRam_keepsAccesses address
      case uniwillWriteEcRam address data =>
        have isAllowed : IoAllowed shown dmi before address data :=
          Or.inr (Or.inl keeps)
        have written := uniwillWriteEcRam_keepsAccesses isAllowed
        exact (written.noting isEcWrite).map _
      case uwSetFan fanIndex fanSpeed =>
        have set : KeepsAccesses shown dmi before (fun _ => True)
            (uwSetFan fanIndex fanSpeed).inr :=
          keepsAccesses_of_confined (uwSetFan_confined fanIndex fanSpeed)
        exact (set.noting isEcWrite).map _
      case uwSetFanAuto =>
        exact keepsAccesses_of_confined uwSetFanAuto_confined
      case uwSetTdp defs tdpIndex tdpValue =>
        have set : KeepsAccesses shown dmi before (fun _ => True)
            (uwSetTdpAccesses tdpIndex tdpValue) :=
          uwSetTdpAccesses_keeps tdpIndex tdpValue
        exact (set.noting isEcWrite).map _
      case uwSetPerformanceProfileV1 profile =>
        have set : KeepsAccesses shown dmi before (fun _ => True)
            (uwSetPerformanceProfileV1 profile).inr :=
          uwSetPerformanceProfileV1_keepsAccesses profile
        exact (set.noting isEcWrite).map _
      all_goals exact ⟨trivial, fun _ _ => trivial⟩

end Calls

/-! ## The commands -/

section Commands

variable {shown : U8 → Prop} {dmi : Dmi} {before : Ram} (arg : U64)

theorem keepsIo_of_readOnly {α : Type} {program : Handler α}
    (asks : program.Asks ReadOnly) :
    KeepsIo shown dmi (fun _ => True) program := by
  apply Program.Asks.guarantees
  apply asks.mono
  intro request readOnly
  cases request with
  | kernel request =>
      cases request <;> first | exact readOnly.elim | trivial
  | features uwFeats => trivial
  | statics update =>
      intro statics identified
      rw [readOnly statics]
      exact identified

theorem setStatics_keepsIo {update : IoStatics → IoStatics}
    (keeps : ∀ statics, Identified shown dmi statics →
      Identified shown dmi (update statics)) :
    KeepsIo shown dmi (fun _ => True) (setStatics update) :=
  ⟨keeps, fun _ _ => trivial⟩

/-- The pointers are set to the tables for a model that is shown. -/
theorem identifyUniwillDevice_keepsIo :
    KeepsIo shown dmi (fun _ => True) (identifyUniwillDevice dmi) := by
  have load : KeepsIo shown dmi (fun _ => True)
      (kernel .uniwillGetDeviceFeatures) :=
    ⟨trivial, fun _ _ => trivial⟩
  apply load.bind
  intro _ _
  apply Program.Guarantees.bind
  · apply setStatics_keepsIo
    intro statics identified
    exact ⟨rfl, identified.minDefs, identified.maxDefs⟩
  · intro _ _
    apply derefUwFeats_keepsIo.bind
    intro features isShown
    apply Program.Guarantees.bind
    · apply setStatics_keepsIo
      intro statics identified
      exact
        ⟨identified.features, ⟨features.model, isShown, rfl⟩,
          identified.maxDefs⟩
    · intro _ _
      apply setStatics_keepsIo
      intro statics identified
      exact
        ⟨identified.features, identified.minDefs,
          ⟨features.model, isShown, rfl⟩⟩

theorem moduleCommand_keepsIo (command : IoctlCommand) :
    KeepsIo shown dmi (fun _ => True) (moduleCommand dmi arg command) := by
  have copied (result : U32) :
      KeepsIo shown dmi (fun _ => True) (copyWord arg result) :=
    keepsIo_of_readOnly (copyWord_readOnly arg result)
  cases command
  case rModVersion =>
    exact
      keepsIo_of_readOnly
        (readOnly_of_kernelOnly (copyText_kernelOnly arg moduleVersion))
  case rHwcheckCl =>
    have identify : KeepsIo shown dmi (fun _ => True) clevoIdentify :=
      ⟨trivial, fun _ _ => trivial⟩
    apply identify.bind
    intro result _
    apply Program.Guarantees.bind
    · exact setStatics_keepsIo fun _ identified =>
        ⟨identified.features, identified.minDefs, identified.maxDefs⟩
    · exact fun _ _ => copied result
  case rHwcheckUw =>
    have identify : KeepsIo shown dmi (fun _ => True)
        (uniwillIdentify dmi) := by
      refine ⟨trivial, fun active _ => ?_⟩
      apply Program.Guarantees.ite
      · intro _
        apply identifyUniwillDevice_keepsIo.bind
        exact fun _ _ => trivial
      · exact fun _ => trivial
    apply identify.bind
    intro result _
    apply Program.Guarantees.bind
    · exact setStatics_keepsIo fun _ identified =>
        ⟨identified.features, identified.minDefs, identified.maxDefs⟩
    · exact fun _ _ => copied result
  all_goals trivial

theorem uniwillWriteCommand_keepsIo (command : IoctlCommand) :
    KeepsIo shown dmi (fun _ => True) (uniwillWriteCommand arg command) := by
  have set (tdpIndex : U8) : KeepsIo shown dmi (fun _ => True)
      (writeTdpCommand tdpIndex arg) := by
    refine ⟨trivial, fun copied _ => ?_⟩
    have limit : KeepsIo shown dmi (fun _ => True)
        (uwSetTdp tdpIndex copied.argument.toInt) := by
      apply derefUwFeats_keepsIo.bind
      intro _ _
      apply getStatics_keepsIo.bind
      exact fun _ _ => ⟨trivial, fun _ _ => trivial⟩
    exact limit.bind fun _ _ => trivial
  cases command
  case wUwTdp0 | wUwTdp1 | wUwTdp2 =>
    exact set _
  case wUwMode =>
    exact
      ⟨trivial, fun _ _ => ⟨Or.inl rfl, fun _ _ => trivial⟩⟩
  case wUwFanspeed | wUwFanspeed2 | wUwPerfProf =>
    exact ⟨trivial, fun _ _ => ⟨trivial, fun _ _ => trivial⟩⟩
  case wUwFanauto =>
    exact ⟨trivial, fun _ _ => trivial⟩
  all_goals trivial

theorem fopIoctl_keepsIo (command : IoctlCommand) :
    KeepsIo shown dmi (fun _ => True) (fopIoctl dmi command arg) := by
  have uniwill : KeepsIo shown dmi (fun _ => True)
      (uniwillIoctlInterface command arg) := by
    apply (keepsIo_of_readOnly
      (uniwillReadCommand_readOnly arg command)).bind
    intro _ _
    apply (uniwillWriteCommand_keepsIo arg command).bind
    exact fun _ _ => trivial
  apply (moduleCommand_keepsIo arg command).bind
  intro _ _
  apply (keepsIo_of_readOnly (readOnly_of_kernelOnly
    (clevoIoctlInterface_kernelOnly dmi arg command))).bind
  intro status _
  apply Program.Guarantees.ite
  · exact fun _ => trivial
  · intro _
    apply uniwill.bind
    exact fun _ _ =>
      Program.Guarantees.ite (fun _ => trivial) fun _ => trivial

theorem ioctlAccesses_keep (zero : shown 0) (command : IoctlCommand) :
    KeepsAccesses shown dmi before (fun _ => True)
      (ioctlAccesses dmi command arg) := by
  apply Program.Guarantees.expand
  · exact fun request keeps => accesses_keep zero keeps
  · exact fopIoctl_keepsIo arg command

end Commands

/-! ## Limits -/

/-- Each limit has a register of its own. -/
theorem tdpCurrentAddr_inj {tdpIndex other : U8}
    (same : tdpCurrentAddr tdpIndex = tdpCurrentAddr other) :
    tdpIndex = other := by
  have values := congrArg BitVec.toNat same
  rw [toNat_tdpCurrentAddr, toNat_tdpCurrentAddr] at values
  exact BitVec.eq_of_toNat_eq (by omega)

section Limits

variable {shown : U8 → Prop} {dmi : Dmi} {tdpIndex : U8}

/-- The DMI strings select tables whatever the model, or there are none for
any model that the features can hold. -/
def TablesStay (shown : U8 → Prop) (dmi : Dmi) : Prop :=
  (tdpDefsOf 0 dmi).isSome = true ∨
    ∀ model, shown model → tdpDefsOf model dmi = none

/-- While the tables stay, a limit that the looks let pass is within those of
one model. -/
theorem bounds_of_accepted (stay : TablesStay shown dmi)
    (first : tdpIndex.toNat < 2) {tdpValue : Int}
    (accepted : AcceptedAtLooks shown dmi tdpIndex tdpValue) :
    (0 < tdpValue ∧ tdpValue ≤ 255) ∧
      ∃ model, shown model ∧
        uwGetTdpMin (uwIdTdp model dmi) tdpIndex ≤ tdpValue ∧
        tdpValue ≤ uwGetTdpMax (uwIdTdp model dmi) tdpIndex := by
  obtain ⟨support, lowest, highest,
    ⟨supportShown, lowestShown, highestShown⟩, supported, atLeast,
    atMost⟩ := accepted
  have byDmi : (tdpDefsOf 0 dmi).isSome = true := by
    rcases stay with byDmi | none
    · exact byDmi
    · obtain ⟨bounds, -, table, -⟩ := uwGetTdpBound_nonneg supported
      rw [uwIdTdp, none support supportShown] at table
      cases table
  obtain ⟨⟨minPositive, -⟩, maxLarge, -⟩ :=
    bounds_of_tables first (tables_of_dmi byDmi lowest)
  obtain ⟨⟨-, minSmall⟩, -, maxByte⟩ :=
    bounds_of_tables first (tables_of_dmi byDmi highest)
  refine ⟨⟨by omega, by omega⟩, ?_⟩
  -- Above the maximum of one table a limit is in the other, as they overlap.
  by_cases within :
      tdpValue ≤ uwGetTdpMax (uwIdTdp lowest dmi) tdpIndex
  · exact ⟨lowest, lowestShown, atLeast, within⟩
  · have belowLimit :
        uwGetTdpMin (uwIdTdp highest dmi) tdpIndex ≤ tdpValue := by
      omega
    exact ⟨highest, highestShown, belowLimit, atMost⟩

/-- The first two limits are not rounded. -/
theorem bounds_of_tdpByte (stay : TablesStay shown dmi)
    (first : tdpIndex.toNat < 2) {data : U8}
    (isByte : TdpByte shown dmi (tdpCurrentAddr tdpIndex) data) :
    ∃ model, shown model ∧
      uwGetTdpMin (uwIdTdp model dmi) tdpIndex ≤ data.toNat ∧
      (data.toNat : Int) ≤ uwGetTdpMax (uwIdTdp model dmi) tdpIndex := by
  obtain ⟨index, tdpValue, features, accepted, atAddress, rfl⟩ := isByte
  obtain rfl := tdpCurrentAddr_inj atAddress
  obtain ⟨⟨positive, oneByte⟩, bounded⟩ :=
    bounds_of_accepted stay first accepted
  have notThird : tdpIndex ≠ 2 := by
    rintro rfl
    exact absurd first (by decide)
  have value : ((BitVec.ofInt 8 tdpValue).toNat : Int) = tdpValue := by
    rw [byteValue_eq_emod]
    omega
  rw [tdpToWrite_of_ne notThird, value]
  exact bounded

/-- The first two limits are as before or within the tables for one of the
models. -/
def LimitsWithin (shown : U8 → Prop) (dmi : Dmi) (before after : Ram) :
    Prop :=
  ∀ tdpIndex : U8, tdpIndex.toNat < 2 →
    let limit := after (tdpCurrentAddr tdpIndex)
    limit = before (tdpCurrentAddr tdpIndex) ∨
      ∃ model, shown model ∧
        uwGetTdpMin (uwIdTdp model dmi) tdpIndex ≤ limit.toNat ∧
        (limit.toNat : Int) ≤ uwGetTdpMax (uwIdTdp model dmi) tdpIndex

end Limits

/-! ## Processes -/

/-- Processes that each make some commands, one after the other. -/
def processes {ι σ : Type} (dmi : Dmi)
    (calls : ι → List (IoctlCommand × U64)) (state : σ) :
    Threads accessSignature ι Unit σ where
  programs process := (calls process).forM fun call =>
    (fun _ => ()) <$> ioctlAccesses dmi call.1 call.2
  state := state

section Processes

variable {σ : Type} {device : EcDevice σ} {ram : σ → Ram}
  (truthful : Truthful device ram) {dmi : Dmi} {before : Ram}
  {rest : Environment ioKernelSignature (Machine σ)}
  (restKeeps : ∀ request machine,
    (rest request machine).2.1 = machine.1 ∧
      ram (rest request machine).2.2 = ram machine.2)
  (stray : DeviceFeatures)

/-- The variables are what is known of them, and the RAM holds what it
may. -/
structure IoHolds (shown : U8 → Prop) (dmi : Dmi) (before : Ram)
    (ram : σ → Ram) (state : IoStatics × Machine σ) : Prop where
  statics : Identified shown dmi state.1
  driver : HoldsAllowed (IoAllowed shown dmi before) (modelShown shown) ram
    state.2

theorem tdpCurrentAddr_ne_model (tdpIndex : U8) :
    tdpCurrentAddr tdpIndex ≠ 0x0740 := by
  intro same
  have values : (tdpCurrentAddr tdpIndex).toNat = 0x0740 :=
    congrArg BitVec.toNat same
  rw [toNat_tdpCurrentAddr] at values
  omega

/-- Nothing is written to the register of the model. -/
theorem model_of_ioAllowed {shown : U8 → Prop} {data : U8}
    (isAllowed : IoAllowed shown dmi before 0x0740 data) :
    data = before 0x0740 := by
  rcases isAllowed with same | isFan | ⟨_, _, _, -, atAddress, -⟩
  · exact same
  · exact absurd isFan (by decide)
  · exact absurd atAddress.symm (tdpCurrentAddr_ne_model _)

/-- An identification that no other process disturbs sets the variables so
for the model that the features then hold. -/
theorem identified_identifyUniwillDevice (register : U8)
    (state : IoStatics × Machine σ) :
    let reached :=
      ((identifyUniwillDevice dmi).run
        (ioEnvironment (driverWorld device dmi rest stray)) state).2
    Identified
      (ModelShown device reached.2.1.uniwillDeviceFeatures.model register)
      dmi reached.1 := by
  intro reached
  have held : ModelShown device
      reached.2.1.uniwillDeviceFeatures.model register
      reached.2.1.uniwillDeviceFeatures.model :=
    Or.inr (Or.inl rfl)
  exact ⟨rfl, ⟨_, held, rfl⟩, ⟨_, held, rfl⟩⟩

include truthful restKeeps

theorem upholds_ioHolds {initial : U8} :
    let shown := ModelShown device initial (before 0x0740)
    Upholds (accessEnvironment device rest stray)
      (IoHolds shown dmi before ram) (AccessShows shown dmi before)
      (AccessKeeps shown dmi before) := by
  intro shown
  have driver : Upholds device.environment
      (HoldsAllowed (IoAllowed shown dmi before) (modelShown shown) ram)
      (ShowsAllowed (IoAllowed shown dmi before) (modelShown shown))
      (WritesAllowed (IoAllowed shown dmi before) (modelShown shown)) :=
    truthful.upholds
  constructor
  · rintro (request | request) ⟨statics, machine⟩ holds keeps
    · cases request with
      | kernel request => trivial
      | features uwFeats =>
          rintro rfl
          exact holds.driver.2
      | statics update => exact holds.statics
    · have shows := driver.answers request machine holds.driver keeps
      cases request with
      | readEcRam address =>
          refine ⟨shows, ?_⟩
          rintro rfl
          change shown (device.read 0x0740 machine.2).1.data
          cases answer : (device.read 0x0740 machine.2).1 with
          | ok data =>
              have register := model_of_ioAllowed (shows data answer)
              exact Or.inr (Or.inr (Or.inl register))
          | fail left =>
              exact Or.inr (Or.inr (Or.inr ⟨machine.2, answer⟩))
      | writeEcRam address data => trivial
      | statics update => exact shows
  · rintro (request | request) ⟨statics, machine⟩ holds keeps
    · cases request with
      | kernel request =>
          obtain ⟨sameVariables, sameRam⟩ := restKeeps request machine
          refine ⟨holds.statics, ?_, ?_⟩
          · intro address
            change IoAllowed shown dmi before address
              (ram (rest request machine).2.2 address)
            rw [sameRam]
            exact holds.driver.1 address
          · change modelShown shown (rest request machine).2.1
            rw [sameVariables]
            exact holds.driver.2
      | features uwFeats => exact holds
      | statics update =>
          exact ⟨keeps statics holds.statics, holds.driver⟩
    · exact
        ⟨holds.statics,
          driver.keeps request machine holds.driver keeps⟩

end Processes

/-- A kernel that copies the user pointer itself. -/
def pointerArguments :
    Environment ioKernelSignature (Machine (Ram × List Bool))
  | .copyToUser _ _, machine => (0, machine)
  | .copyFromUser address, machine => (⟨0, address.setWidth 32⟩, machine)
  | .clevoGetActiveInterfaceId, machine => (none, machine)
  | .clevoEvaluateMethod _ _, machine =>
      (⟨(-enodev, none), false⟩, machine)
  | .uniwillGetActiveInterfaceId, machine => (some "uniwill_wmi", machine)
  | .uniwillGetDeviceFeatures, machine => ((), machine)
  | .uniwillReadEcRam _, machine => (.fail 0, machine)
  | .uniwillWriteEcRam _ _, machine => (⟨-eio, false⟩, machine)
  | .uwSetFan _ _, machine => (⟨0, false⟩, machine)
  | .uwSetFanAuto, machine => (0, machine)
  | .uwSetTdp _ _ _, machine => (⟨0, false⟩, machine)
  | .uwSetPerformanceProfileV1 _, machine => (⟨0, false⟩, machine)
  | .msleep _, machine => ((), machine)

/-- The module identified a device, and the next access to its EC fails. -/
def failingNext (model : U8) (dmi : Dmi) :
    IoStatics × Machine (Ram × List Bool) :=
  ({ uwFeats := true
     tdpMinDefs := (uwIdTdp model dmi).min
     tdpMaxDefs := (uwIdTdp model dmi).max },
    { uniwillDeviceFeatures := { model := model } },
    fun _ => model, [false])

/-- Two processes that set the first limit. -/
def twoLimits (process : Bool) : List (IoctlCommand × U64) :=
  if process = true then [(.wUwTdp0, 30)] else [(.wUwTdp0, 250)]

/-- The tables of a device that only its model tells go away when a read of
the model fails.  If that happens between the two looks at the minimum, -5 is
taken for a limit. -/
theorem negativeLimit_written :
    let dmi : Dmi := fun _ => none
    let calls (process : Bool) : List (IoctlCommand × U64) :=
      if process = true then [(.wUwTdp0, 0xfffffffb)]
      else [(.rHwcheckUw, 0)]
    let reached :=
      ((processes dmi calls (failingNext uwModelPH4TUX dmi)).run
        (accessEnvironment flakyEc pointerArguments {})
        (List.replicate 7 true ++ List.replicate 26 false ++
          List.replicate 3 true)).state
    reached.2.2.1 (tdpCurrentAddr 0) = 0xfb := by
  decide +kernel

end TuxedoDrivers.Io.Ioctl
