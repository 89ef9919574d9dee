import TuxedoDrivers.Uniwill.EcAccess

/-!
# Device features

`uniwill_get_device_features` fills the feature flags from DMI strings and
from EC registers.  A failing EC read leaves the flag it was for as it was;
the flags are then filled again by the next call, until one call reads
everything.  So the flags can change during the life of the driver.

Loading the features only reads the EC and only assigns the flags.
-/

namespace TuxedoDrivers.Uniwill

open Interaction

/-! ## Flags read from the EC -/

abbrev uwModelPH4TRX : U8 := 0x12
abbrev uwEcRegMiniLedLocalDimmingSupport : U16 := 0x0d4f

/-- A feature that one bit of an EC register tells.  `*status` is assigned
only when the read succeeds; otherwise the code is `error`, or the status of
the read where the function passes that on. -/
def hasFeatureBit (address : U16) (supported : U8 → Bool)
    (error : Int → Int) : Driver (Except Int Bool) := do
  let reply ← uniwillReadEcRam address
  if reply.status ≠ 0 then
    pure (.error (error reply.status))
  else
    pure (.ok (supported reply.data))

def boardNames (names : List String) : List (DmiField × String) :=
  names.map fun name => (.boardName, name)

def productSkus (names : List String) : List (DmiField × String) :=
  names.map fun name => (.productSku, name)

def deviceBeforeFeatureDrop (dmi : Dmi) : Bool :=
  dmiMatchAny dmi <| boardNames
    [ "PH4PRX1_PH6PRX1", "PH6PG01_PH6PG71", "PH4PG31", "PHxARX1_PHxAQF1",
      "PH6AG01_PH6AQ71_PH6AQI1", "PHxTxX1", "GMxXGxx", "GMxNGxx",
      "GMxTGxx", "GMxZGxx", "GMxMGxx", "POLARIS1501I1650TI",
      "POLARIS1501A1650TI", "POLARIS1701A1650TI", "POLARIS1701I1650TI",
      "POLARIS1501I2060", "POLARIS1501A2060", "POLARIS1701I2060",
      "POLARIS1701A2060", "PF5LUXG", "PULSE1401", "PULSE1501" ]

def uwHasChargingPriority (dmi : Dmi) : Driver (Except Int Bool) :=
  if deviceBeforeFeatureDrop dmi = true then
    hasFeatureBit 0x0742 (fun data => decide (data &&& (1 <<< 5) ≠ 0))
      fun _ => -eio
  else
    pure (.ok false)

def chargingProfileNotSupported (dmi : Dmi) : Bool :=
  dmiMatchAny dmi <|
    boardNames ["PF5PU1G", "LAPQC71A", "LAPQC71B"] ++
      [(.productName, "A60 MUV")]

def uwHasChargingProfile (dmi : Dmi) : Driver (Except Int Bool) :=
  if chargingProfileNotSupported dmi = true then
    pure (.ok false)
  else
    hasFeatureBit 0x078e (fun data => decide (data &&& (1 <<< 3) ≠ 0))
      fun _ => -eio

def isAutoBootAndPowershareSupported (dmi : Dmi) : Bool :=
  dmiMatchAny dmi <| boardNames
    [ "GXxMRXx", "GXxHRXx", "XxHP4NAx", "XxKK4NAx_XxSP4NAx", "XxAR4NAx",
      "GM6IXxB_MB1", "GM6IXxB_MB2", "GM7IXxN", "X6AR5xxY", "X6AR5xxY_mLED",
      "X6FR5xxY", "GMxHGxx", "GM5IXxA", "X5KK45xS_X5SP45xS",
      "X6KK45xU_X6SP45xU", "X5AR45xS", "X6AR55xU", "XxAF5xxx",
      "XxAF5xxx_mLED" ]

def uwHasAcAutoBoot (dmi : Dmi) : Driver (Except Int Bool) :=
  pure (.ok (isAutoBootAndPowershareSupported dmi))

def uwHasUsbPowershare (dmi : Dmi) : Driver (Except Int Bool) :=
  pure (.ok (isAutoBootAndPowershareSupported dmi))

def uwHasMiniLedLocalDimming : Driver (Except Int Bool) :=
  hasFeatureBit uwEcRegMiniLedLocalDimmingSupport
    (fun data => decide (data ≠ 0xff ∧ data &&& 0x01 ≠ 0)) id

def uwHasHiddenBiosOptions (dmi : Dmi) : Driver (Except Int Bool) :=
  pure (.ok (dmiMatchAny dmi
    (boardNames ["X6AR5xxY", "X6AR5xxY_mLED", "X6AR55xU"])))

def hasDoublePl4 : Driver (Except Int Bool) :=
  hasFeatureBit 0x0727 (fun data => decide (data &&& (1 <<< 7) ≠ 0)) id

def universalFanControlException (dmi : Dmi) (model : U8) : Bool :=
  decide (model = uwModelPH4TRX) ||
    dmiMatchAny dmi
      (boardNames ["GXxMRXx", "XxAR4NAx", "X6FR5xxY", "X5AR45xS"])

/-- Negative on an I/O error, else 0 or 1. -/
def hasUniversalEcFanControl (dmi : Dmi) : Driver Int := do
  let statics ← getStatics
  if universalFanControlException dmi
      statics.uniwillDeviceFeatures.model = true then
    return 0
  else
    let reply ← uniwillReadEcRam 0x078e
    if reply.status < 0 then
      return reply.status
    else
      return (((reply.data >>> 6) &&& 1).toNat : Int)

/-! ## Flags read from the DMI strings -/

def profileV1TwoProfs (dmi : Dmi) : Bool :=
  dmiMatchAny dmi (boardNames ["PF5PU1G", "PULSE1401", "PULSE1501"])

def profileV1ThreeProfs (dmi : Dmi) : Bool :=
  dmiMatchAny dmi <| boardNames
    [ "POLARIS1501A1650TI", "POLARIS1501A2060", "POLARIS1501I1650TI",
      "POLARIS1501I2060", "POLARIS1701A1650TI", "POLARIS1701A2060",
      "POLARIS1701I1650TI", "POLARIS1701I2060", "GXxMRXx", "GXxHRXx",
      "XxHP4NAx", "XxKK4NAx_XxSP4NAx", "XxAR4NAx" ]

def profileV1ThreeProfsLedsOnly (dmi : Dmi) : Bool :=
  dmiMatchAny dmi <| productSkus
    [ "POLARIS1XA02", "POLARIS1XI02", "POLARIS1XA03", "POLARIS1XI03",
      "STELLARIS1XI03", "STELLARIS1XA03", "STELLARIS1XI04", "STEPOL1XA04" ]

def customProfileModeNeeded (dmi : Dmi) : Bool :=
  dmiMatchAny dmi <|
    productSkus
        [ "STELLARIS16I06", "STELLARIS17I06", "STELLARIS16I07",
          "STELLARIS16A07", "STELLSL15I06", "STELLSL15A06" ] ++
      boardNames
        [ "GXxMRXx", "GXxHRXx", "XxHP4NAx", "XxKK4NAx_XxSP4NAx",
          "X5KK45xS_X5SP45xS", "X6KK45xU_X6SP45xU", "X6AR55xU", "X5AR45xS",
          "XxAF5xxx", "XxAF5xxx_mLED" ]

/-! ## Loading -/

def setFeatures (update : DeviceFeatures → DeviceFeatures) :
    Driver Unit :=
  setStatics fun statics =>
    { statics with
      uniwillDeviceFeatures := update statics.uniwillDeviceFeatures }

/-- `if (has(&flag) != 0) feats_loaded = false;`, where `loaded` is the
variable. -/
def loadFeature (has : Driver (Except Int Bool))
    (assign : Bool → DeviceFeatures → DeviceFeatures) (loaded : Bool) :
    Driver Bool := do
  match ← has with
  | .ok status =>
      setFeatures (assign status)
      return loaded
  | .error _ =>
      return false

/-- A read that fails leaves its byte in `model` until it is cleared. -/
def loadModel : Driver Bool := do
  let reply ← uniwillReadEcRam 0x0740
  setFeatures fun features => { features with model := reply.data }
  if reply.status ≠ 0 then
    setFeatures fun features => { features with model := 0 }
    return false
  else
    return true

def loadUniversalEcFanControl (dmi : Dmi) (loaded : Bool) :
    Driver Bool := do
  let result ← hasUniversalEcFanControl dmi
  if result < 0 then
    return false
  else
    setFeatures fun features =>
      { features with uniwillHasUniversalEcFanControl := decide (result = 1) }
    return loaded

/-- The flags of `uniwill_get_device_features` that follow the ones read from
the DMI strings. -/
def loadEcFeatures (dmi : Dmi) (loaded : Bool) : Driver Unit := do
  let loaded ← loadFeature hasDoublePl4
    (fun status features => { features with uniwillHasDoublePl4 := status })
    loaded
  setFeatures fun features =>
    { features with
      uniwillProfileV1 :=
        features.uniwillProfileV1TwoProfs ||
          features.uniwillProfileV1ThreeProfs }
  let loaded ← loadFeature (uwHasChargingPriority dmi)
    (fun status features =>
      { features with uniwillHasChargingPrio := status }) loaded
  let loaded ← loadFeature (uwHasChargingProfile dmi)
    (fun status features =>
      { features with uniwillHasChargingProfile := status }) loaded
  let loaded ← loadFeature (uwHasAcAutoBoot dmi)
    (fun status features =>
      { features with uniwillHasAcAutoBoot := status }) loaded
  let loaded ← loadFeature (uwHasUsbPowershare dmi)
    (fun status features =>
      { features with uniwillHasUsbPowershare := status }) loaded
  let loaded ← loadFeature uwHasMiniLedLocalDimming
    (fun status features =>
      { features with uniwillHasMiniLedLocalDimming := status }) loaded
  let loaded ← loadFeature (uwHasHiddenBiosOptions dmi)
    (fun status features =>
      { features with uniwillHasHiddenBiosOptions := status }) loaded
  let loaded ← loadUniversalEcFanControl dmi loaded
  setStatics fun statics => { statics with uwFeatsLoaded := loaded }

/-- `uniwill_get_device_features` when the flags are not loaded. -/
def loadDeviceFeatures (dmi : Dmi) : Driver Unit := do
  let loaded ← loadModel
  setFeatures fun features =>
    { features with
      uniwillProfileV1TwoProfs := profileV1TwoProfs dmi
      uniwillProfileV1ThreeProfs := profileV1ThreeProfs dmi
      uniwillProfileV1ThreeProfsLedsOnly := profileV1ThreeProfsLedsOnly dmi
      uniwillCustomProfileModeNeeded := customProfileModeNeeded dmi }
  loadEcFeatures dmi loaded

/-- `uniwill_get_device_features`; its result is a pointer to the flags. -/
def uniwillGetDeviceFeatures (dmi : Dmi) : Driver DeviceFeatures := do
  let statics ← getStatics
  if statics.uwFeatsLoaded = true then
    return statics.uniwillDeviceFeatures
  else
    loadDeviceFeatures dmi
    let statics ← getStatics
    return statics.uniwillDeviceFeatures

/-! ## What loading leaves alone -/

/-- Reads, and assignments that a view of the variables does not show. -/
def LoadRequest {β : Type} (view : DriverState → β) :
    UniwillRequest → Prop
  | .readEcRam _ => True
  | .writeEcRam _ _ => False
  | .statics update => ∀ statics, view (update statics) = view statics

/-- The variables other than the features. -/
def otherStatics (statics : DriverState) :
    FanStatics × SettingStatics × LedStatics :=
  (statics.fan, statics.settings, statics.leds)

/-- The variables that only change before `loadEcFeatures`. -/
def staticsBeforeEcFeatures (statics : DriverState) :
    (FanStatics × SettingStatics × LedStatics) × Bool × U8 :=
  (otherStatics statics,
    statics.uniwillDeviceFeatures.uniwillCustomProfileModeNeeded,
    statics.uniwillDeviceFeatures.model)

section LoadRequests

variable {β : Type} {view : DriverState → β}

private theorem getStatics_asks_load :
    getStatics.Asks (LoadRequest view) :=
  ⟨fun _ => rfl, fun _ => trivial⟩

private theorem setFeatures_asks
    {update : DeviceFeatures → DeviceFeatures}
    (hidden : ∀ statics,
      view { statics with
        uniwillDeviceFeatures := update statics.uniwillDeviceFeatures } =
        view statics) :
    (setFeatures update).Asks (LoadRequest view) :=
  ⟨hidden, fun _ => trivial⟩

private theorem hasFeatureBit_asks (address : U16) (supported : U8 → Bool)
    (error : Int → Int) :
    (hasFeatureBit address supported error).Asks (LoadRequest view) := by
  refine Program.Asks.bind ⟨trivial, fun _ => trivial⟩ fun reply => ?_
  exact Program.Asks.ite (fun _ => trivial) (fun _ => trivial)

private theorem loadFeature_asks {has : Driver (Except Int Bool)}
    (hasAsks : has.Asks (LoadRequest view))
    {assign : Bool → DeviceFeatures → DeviceFeatures}
    (hidden : ∀ status statics,
      view { statics with
        uniwillDeviceFeatures :=
          assign status statics.uniwillDeviceFeatures } =
        view statics)
    (loaded : Bool) :
    (loadFeature has assign loaded).Asks (LoadRequest view) := by
  refine hasAsks.bind fun result => ?_
  cases result with
  | ok status =>
      exact (setFeatures_asks (hidden status)).bind fun _ => trivial
  | error code =>
      trivial

private theorem hasUniversalEcFanControl_asks (dmi : Dmi) :
    (hasUniversalEcFanControl dmi).Asks (LoadRequest view) := by
  refine getStatics_asks_load.bind fun statics => ?_
  refine Program.Asks.ite (fun _ => trivial) fun _ => ?_
  refine Program.Asks.bind ⟨trivial, fun _ => trivial⟩ fun reply => ?_
  exact Program.Asks.ite (fun _ => trivial) (fun _ => trivial)

end LoadRequests

theorem loadEcFeatures_asks (dmi : Dmi) (loaded : Bool) :
    (loadEcFeatures dmi loaded).Asks
      (LoadRequest staticsBeforeEcFeatures) := by
  have chargingPriority :
      (uwHasChargingPriority dmi).Asks
        (LoadRequest staticsBeforeEcFeatures) :=
    Program.Asks.ite (fun _ => hasFeatureBit_asks _ _ _) (fun _ => trivial)
  have chargingProfile :
      (uwHasChargingProfile dmi).Asks
        (LoadRequest staticsBeforeEcFeatures) :=
    Program.Asks.ite (fun _ => trivial) (fun _ => hasFeatureBit_asks _ _ _)
  refine (loadFeature_asks (hasFeatureBit_asks _ _ _)
    (fun _ _ => rfl) _).bind fun _ => ?_
  refine (setFeatures_asks fun _ => rfl).bind fun _ => ?_
  refine (loadFeature_asks chargingPriority
    (fun _ _ => rfl) _).bind fun _ => ?_
  refine (loadFeature_asks chargingProfile
    (fun _ _ => rfl) _).bind fun _ => ?_
  refine (loadFeature_asks (Program.asks_pure _)
    (fun _ _ => rfl) _).bind fun _ => ?_
  refine (loadFeature_asks (Program.asks_pure _)
    (fun _ _ => rfl) _).bind fun _ => ?_
  refine (loadFeature_asks (hasFeatureBit_asks _ _ _)
    (fun _ _ => rfl) _).bind fun _ => ?_
  refine (loadFeature_asks (Program.asks_pure _)
    (fun _ _ => rfl) _).bind fun _ => ?_
  refine Program.Asks.bind ?_ fun _ =>
    ⟨fun _ => rfl, fun _ => trivial⟩
  refine (hasUniversalEcFanControl_asks dmi).bind fun result => ?_
  refine Program.Asks.ite (fun _ => trivial) fun _ => ?_
  exact (setFeatures_asks fun _ => rfl).bind fun _ => trivial

theorem loadModel_asks : loadModel.Asks (LoadRequest otherStatics) := by
  refine Program.Asks.bind ⟨trivial, fun _ => trivial⟩ fun reply => ?_
  refine (setFeatures_asks fun _ => rfl).bind fun _ => ?_
  refine Program.Asks.ite (fun _ => ?_) (fun _ => trivial)
  exact (setFeatures_asks fun _ => rfl).bind fun _ => trivial

theorem uniwillGetDeviceFeatures_asks (dmi : Dmi) :
    (uniwillGetDeviceFeatures dmi).Asks (LoadRequest otherStatics) := by
  have forgetFeatures : ∀ request,
      LoadRequest staticsBeforeEcFeatures request →
        LoadRequest otherStatics request := by
    intro request permitted
    cases request with
    | readEcRam address =>
        trivial
    | writeEcRam address data =>
        exact permitted
    | statics update =>
        exact fun statics => congrArg Prod.fst (permitted statics)
  refine getStatics_asks_load.bind fun statics => ?_
  refine Program.Asks.ite (fun _ => trivial) fun _ => ?_
  refine Program.Asks.bind ?_ fun _ =>
    getStatics_asks_load.bind fun _ => trivial
  refine loadModel_asks.bind fun loaded => ?_
  refine (setFeatures_asks fun _ => rfl).bind fun _ => ?_
  exact (loadEcFeatures_asks dmi loaded).mono forgetFeatures

/-- What a view does not show of the assignments, the run preserves. -/
private theorem view_of_loadRequests
    {α β σ : Type} {view : DriverState → β} {program : Driver α}
    (asks : program.Asks (LoadRequest view)) (device : EcDevice σ)
    (machine : Machine σ) :
    view (device.run program machine).2.1 = view machine.1 := by
  refine
    asks.run_preserves device.environment
      (fun later : Machine σ => view later.1 = view machine.1) ?_ rfl
  intro request later permitted kept
  cases request with
  | readEcRam address =>
      exact kept
  | writeEcRam address data =>
      exact permitted.elim
  | statics update =>
      exact (permitted later.1).trans kept

/-- Loading the features changes neither the RAM nor a variable other than
the features, even when reads fail. -/
theorem run_uniwillGetDeviceFeatures_keeps
    (dmi : Dmi) (machine : Machine FaultyRam) :
    (faultyEc.run (uniwillGetDeviceFeatures dmi) machine).2.2.ram =
        machine.2.ram ∧
      otherStatics
          (faultyEc.run (uniwillGetDeviceFeatures dmi) machine).2.1 =
        otherStatics machine.1 := by
  refine
    ⟨?_, view_of_loadRequests (uniwillGetDeviceFeatures_asks dmi) _ _⟩
  refine
    (uniwillGetDeviceFeatures_asks dmi).run_preserves faultyEc.environment
      (fun later : Machine FaultyRam => later.2.ram = machine.2.ram) ?_ rfl
  intro request later permitted kept
  cases request with
  | readEcRam address =>
      exact kept
  | writeEcRam address data =>
      exact permitted.elim
  | statics update =>
      exact kept

/-- The need for the custom profile mode is known even when EC reads fail. -/
theorem customProfileModeNeeded_of_features
    {σ : Type} (dmi : Dmi) (device : EcDevice σ) (machine : Machine σ) :
    (device.run (uniwillGetDeviceFeatures dmi)
        machine).1.uniwillCustomProfileModeNeeded =
      if machine.1.uwFeatsLoaded = true then
        machine.1.uniwillDeviceFeatures.uniwillCustomProfileModeNeeded
      else customProfileModeNeeded dmi := by
  simp only [uniwillGetDeviceFeatures, run_bind, run_getStatics, run_ite]
  split
  · rfl
  · simp only [loadDeviceFeatures, run_bind, run_pure]
    have kept (loaded : Bool) (reached : Machine σ) :
        staticsBeforeEcFeatures
            (device.run (loadEcFeatures dmi loaded) reached).2.1 =
          staticsBeforeEcFeatures reached.1 :=
      view_of_loadRequests (loadEcFeatures_asks dmi loaded) device reached
    exact congrArg (fun view => view.2.1) (kept _ _)

end TuxedoDrivers.Uniwill
