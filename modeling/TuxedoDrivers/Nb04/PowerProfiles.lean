import TuxedoDrivers.Interaction.KeptSetting
import TuxedoDrivers.Nb04.StatusMethods
import TuxedoDrivers.Sysfs

/-!
# Power profiles of the NB04 machines

`tuxedo_nb04_power_profiles.c`.  The firmware cannot be asked for the profile,
so the driver shows the one it keeps.  It keeps a profile before it asks the
firmware for it.
-/

namespace TuxedoDrivers.Nb04.PowerProfiles

open Interaction
open TuxedoDrivers.Wmi

abbrev wmiSystemModeBattery : U8 := 0
abbrev wmiSystemModeHuman : U8 := 1
abbrev wmiSystemModeBeast : U8 := 2
abbrev wmiSystemModeEnd : U8 := 3

abbrev defaultProfile : U8 := wmiSystemModeBeast

/-- `struct driver_data_t`. -/
structure DriverData where
  currentProfileValue : U8
  deriving DecidableEq, Repr

def modeBuffer (modeInput : U8) : Vector U8 bsInputBufferLength :=
  #v[modeInput, 0, 0, 0, 0, 0, 0, 0]

def setSystemMode (modeInput : U8) : Methods Int := do
  if modeInput ≥ wmiSystemModeEnd then
    return -einval
  else
    let result ← bsMethodWithStatus 0x07 (modeBuffer modeInput)
    match result with
    | .error err => return err
    | .ok _ => return 0

def writePlatformProfileState (driverData : DriverData) : Methods Int :=
  setSystemMode driverData.currentProfileValue

/-! ## The attributes -/

def platformProfileOptions : List (String × U64) :=
  [("low-power", wmiSystemModeBattery.setWidth 64),
    ("balanced", wmiSystemModeHuman.setWidth 64),
    ("performance", wmiSystemModeBeast.setWidth 64)]

def platformProfileChoicesShow : String :=
  " ".intercalate (platformProfileOptions.map Prod.fst) ++ "\n"

def platformProfileShow (driverData : DriverData) : Except Int String :=
  match platformProfileOptions.find? fun choice =>
      decide (choice.2 = driverData.currentProfileValue.setWidth 64) with
  | some choice => .ok (choice.1 ++ "\n")
  | none => .error (-eio)

/-- The value of the option that a text names. -/
def platformProfileValue (buffer : String) : Option U64 :=
  (platformProfileOptions.find? fun choice =>
    decide (choice.1 = strstrip buffer)).map Prod.snd

def platformProfileStore (driverData : DriverData) (buffer : String)
    (size : Nat) : Methods (Int × DriverData) := do
  match platformProfileValue buffer with
  | some value =>
      -- Option found, try to set
      let changed : DriverData := { currentProfileValue := value.setWidth 8 }
      let err ← writePlatformProfileState changed
      if err ≠ 0 then
        return (err, changed)
      else
        return (size, changed)
  | none => return (-einval, driverData)

/-- The probe, which does not look at the result of its write, with the
answers of the allocation and of `sysfs_create_group`. -/
def tuxedoNb04PowerProfilesProbe (allocated : Bool) (dmi : Dmi)
    (createGroup : Int) : Methods (Int × Option DriverData) := do
  if allocated = false then
    return (-enomem, none)
  else if dmiMatch dmi .sysVendor "TUXEDO" = true ∧
      dmiMatch dmi .productSku "SIRIUS1601" = true then
    return (-enodev, none)
  else
    let driverData : DriverData := { currentProfileValue := defaultProfile }
    let _ ← writePlatformProfileState driverData
    if createGroup ≠ 0 then
      return (createGroup, none)
    else
      return (0, some driverData)

example : platformProfileChoicesShow = "low-power balanced performance\n" ∧
    platformProfileShow ⟨1⟩ = .ok "balanced\n" ∧
    platformProfileValue " balanced\n" = some 1 := by decide

/-! ## What the firmware accepts -/

/-- The firmware answers a mode with success. -/
def replyAccepted (reply : Reply) : Bool :=
  (statusResult reply).isOk

/-- The mode that a call sets. -/
def acceptedMode : Event wmiSignature → Option U8
  | ⟨.evaluateMethod _ methodId (modeInput :: _), reply⟩ =>
      if methodId = 0x07 ∧ replyAccepted reply = true then some modeInput
      else none
  | _ => none

/-- The mode of the last call that was accepted. -/
def lastAccepted (log : List (Event wmiSignature)) : Option U8 :=
  (log.filterMap acceptedMode).getLast?

section Firmware

variable {σ : Type} (environment : Environment wmiSignature σ)
  (firmware : σ)

/-- The firmware is there and accepts the mode next. -/
def firmwareAccepts (modeInput : U8) : Bool :=
  match (environment .getWmiDev firmware).1 with
  | some device =>
      replyAccepted
        (environment
          (.evaluateMethod device 0x07 (modeBuffer modeInput).toList)
          (environment .getWmiDev firmware).2).1
  | none => false

/-- What the driver makes of the answer to a mode. -/
def modeResult (reply : Reply) : Int :=
  match statusResult reply with
  | .error err => err
  | .ok _ => 0

theorem modeResult_eq_zero_iff (reply : Reply) :
    modeResult reply = 0 ↔ replyAccepted reply = true := by
  unfold modeResult replyAccepted
  cases result : statusResult reply with
  | error err =>
      have negative := statusResult_error_neg result
      exact iff_of_false (Int.ne_of_lt negative) Bool.false_ne_true
  | ok out =>
      exact iff_of_true rfl rfl

theorem modeResult_nonpos (reply : Reply) : modeResult reply ≤ 0 := by
  unfold modeResult
  cases result : statusResult reply with
  | error err => exact Int.le_of_lt (statusResult_error_neg result)
  | ok out => exact Int.le_refl 0

theorem setSystemMode_eq {modeInput : U8}
    (valid : modeInput < wmiSystemModeEnd) :
    setSystemMode modeInput =
      request .getWmiDev >>= fun wmiDev =>
        match wmiDev with
        | some device =>
            modeResult <$> request
              (.evaluateMethod device 0x07 (modeBuffer modeInput).toList)
        | none => pure (-enodev) := by
  have notInvalid : ¬ modeInput ≥ wmiSystemModeEnd := BitVec.not_le.mpr valid
  rw [setSystemMode, if_neg notInvalid, bsMethodWithStatus_eq, wmiMethod,
    bind_assoc]
  apply bind_congr
  intro wmiDev
  cases wmiDev with
  | none => rfl
  | some device =>
      simp only [map_eq_pure_bind, bind_assoc]
      apply bind_congr
      intro reply
      rw [pure_bind, modeResult]
      cases statusResult reply <;> rfl

theorem run_setSystemMode {modeInput : U8}
    (valid : modeInput < wmiSystemModeEnd) :
    (((setSystemMode modeInput).run environment firmware).1 = 0 ↔
        firmwareAccepts environment firmware modeInput = true) ∧
      ((setSystemMode modeInput).run environment firmware).1 ≤ 0 ∧
      ((setSystemMode modeInput).trace environment firmware).filterMap
          acceptedMode =
        if firmwareAccepts environment firmware modeInput = true then
          [modeInput]
        else [] := by
  rw [setSystemMode_eq valid, firmwareAccepts, Program.run_bind,
    Program.trace_bind]
  have first :
      (request .getWmiDev).run environment firmware =
        environment .getWmiDev firmware := rfl
  have firstTrace :
      (request .getWmiDev).trace environment firmware =
        [⟨.getWmiDev, (environment .getWmiDev firmware).1⟩] := rfl
  have noDevice : (-enodev : Int) < 0 := by decide
  rw [first, firstTrace]
  cases (environment .getWmiDev firmware).1 with
  | none =>
      exact
        ⟨iff_of_false (Int.ne_of_lt noDevice) Bool.false_ne_true,
          Int.le_of_lt noDevice, rfl⟩
  | some device =>
      have reply :
          (request (.evaluateMethod device 0x07
              (modeBuffer modeInput).toList)).run environment
              (environment .getWmiDev firmware).2 =
            environment (.evaluateMethod device 0x07
                (modeBuffer modeInput).toList)
              (environment .getWmiDev firmware).2 := rfl
      rw [Program.run_map, reply]
      refine ⟨modeResult_eq_zero_iff _, modeResult_nonpos _, ?_⟩
      rw [Program.trace_map]
      change (acceptedMode ⟨.evaluateMethod device 0x07
        (modeBuffer modeInput).toList, _⟩).toList = _
      change (if (0x07 : U32) = 0x07 ∧ _ then some modeInput
        else none).toList = _
      simp only [true_and]
      split <;> rfl

end Firmware

/-! ## Stores after a probe -/

/-- The driver, the firmware and the calls that were made of it. -/
structure Session (σ : Type) where
  driverData : DriverData
  firmware : σ
  log : List (Event wmiSignature)

/-- The mode that is kept and the one that was accepted last. -/
def Session.setting {σ : Type} (session : Session σ) : Setting U8 :=
  { kept := session.driverData.currentProfileValue
    accepted := lastAccepted session.log }

section Stores

variable {σ : Type} (environment : Environment wmiSignature σ)
  (store : String × Nat) (session : Session σ)

/-- A write of a text to the attribute. -/
def storeStep : Session σ :=
  let program :=
    platformProfileStore session.driverData store.1 store.2
  { driverData := (program.run environment session.firmware).1.2
    firmware := (program.run environment session.firmware).2
    log := session.log ++ program.trace environment session.firmware }

def storeResult : Int :=
  ((platformProfileStore session.driverData store.1 store.2).run
    environment session.firmware).1.1

/-- The mode that the store asks the firmware for, and whether the firmware
accepts it. -/
def storeAttempt : Attempt U8 :=
  (platformProfileValue store.1).map fun value =>
    (value.setWidth 8,
      firmwareAccepts environment session.firmware (value.setWidth 8))

theorem mode_of_platformProfileValue {buffer : String} {value : U64}
    (named : platformProfileValue buffer = some value) :
    value.setWidth 8 < wmiSystemModeEnd := by
  obtain ⟨choice, found, rfl⟩ := Option.map_eq_some_iff.mp named
  have member := List.mem_of_find?_eq_some found
  simp only [platformProfileOptions, List.mem_cons, List.not_mem_nil,
    or_false] at member
  rcases member with rfl | rfl | rfl <;> decide

theorem platformProfileStore_eq {buffer : String} {value : U64}
    (named : platformProfileValue buffer = some value)
    (driverData : DriverData) (size : Nat) :
    platformProfileStore driverData buffer size =
      (fun err => (if err ≠ 0 then err else (size : Int),
        { currentProfileValue := value.setWidth 8 })) <$>
          setSystemMode (value.setWidth 8) := by
  simp only [platformProfileStore, named, map_eq_pure_bind]
  apply bind_congr
  intro err
  split <;> rfl

theorem platformProfileStore_eq_of_none {buffer : String}
    (unnamed : platformProfileValue buffer = none)
    (driverData : DriverData) (size : Nat) :
    platformProfileStore driverData buffer size =
      pure (-einval, driverData) := by
  simp only [platformProfileStore, unnamed]

/-- A store keeps the mode before the firmware is asked for it. -/
theorem setting_storeStep :
    (storeStep environment store session).setting =
      session.setting.keepFirst (storeAttempt environment store session) := by
  rw [Session.setting, storeStep, storeAttempt]
  cases named : platformProfileValue store.1 with
  | none =>
      rw [platformProfileStore_eq_of_none named]
      simp only [Program.run_pure, Program.trace_pure, List.append_nil]
      rfl
  | some value =>
      obtain ⟨-, -, accepted⟩ :=
        run_setSystemMode environment session.firmware
          (mode_of_platformProfileValue named)
      rw [platformProfileStore_eq named]
      simp only [Program.run_map, Program.trace_map, lastAccepted,
        List.filterMap_append, accepted, Option.map_some]
      cases firmwareAccepts environment session.firmware
          (value.setWidth 8) with
      | true =>
          simp only [if_true, List.getLast?_concat]
          rfl
      | false =>
          simp only [Bool.false_eq_true, if_false, List.append_nil]
          rfl

/-- A store that returns an error had no mode accepted. -/
theorem storeAttempt_of_error
    (failed : storeResult environment store session < 0) (mode : U8) :
    storeAttempt environment store session ≠ some (mode, true) := by
  intro attempted
  obtain ⟨value, named, same⟩ := Option.map_eq_some_iff.mp attempted
  have accepts :
      firmwareAccepts environment session.firmware (value.setWidth 8) =
        true := congrArg Prod.snd same
  have success :=
    (run_setSystemMode environment session.firmware
      (mode_of_platformProfileValue named)).1.mpr accepts
  rw [storeResult, platformProfileStore_eq named, Program.run_map] at failed
  simp only [success, ne_eq, not_true_eq_false, if_false] at failed
  omega

end Stores

/-! ## The profile that is shown -/

/-- The option with this mode. -/
def profileName (mode : U8) : Option String :=
  (platformProfileOptions.find? fun choice =>
    decide (choice.2 = mode.setWidth 64)).map Prod.fst

/-- The profile that is shown is the one that the firmware accepted last. -/
def ProfileInForce {σ : Type} (session : Session σ) : Prop :=
  ∃ mode name, lastAccepted session.log = some mode ∧
    profileName mode = some name ∧
    platformProfileShow session.driverData = .ok (name ++ "\n")

/-- The mode of an option is kept. -/
def KeepsOption {σ : Type} (session : Session σ) : Prop :=
  session.driverData.currentProfileValue < wmiSystemModeEnd

theorem platformProfileShow_eq (driverData : DriverData) :
    platformProfileShow driverData =
      match profileName driverData.currentProfileValue with
      | some name => .ok (name ++ "\n")
      | none => .error (-eio) := by
  unfold platformProfileShow profileName
  cases platformProfileOptions.find? fun choice =>
      decide (choice.2 = driverData.currentProfileValue.setWidth 64) with
  | none => rfl
  | some choice => rfl

theorem profileName_of_lt {mode : U8} (valid : mode < wmiSystemModeEnd) :
    ∃ name, profileName mode = some name := by
  have small : mode.toNat < 3 := valid
  have cases : mode = 0 ∨ mode = 1 ∨ mode = 2 := by
    simp only [← BitVec.toNat_inj]
    change mode.toNat = 0 ∨ mode.toNat = 1 ∨ mode.toNat = 2
    omega
  rcases cases with rfl | rfl | rfl
  · exact ⟨"low-power", by decide⟩
  · exact ⟨"balanced", by decide⟩
  · exact ⟨"performance", by decide⟩

/-- Two modes have different names. -/
theorem profileName_inj {mode other : U8} {name : String}
    (named : profileName mode = some name)
    (otherNamed : profileName other = some name) : mode = other := by
  obtain ⟨choice, found, rfl⟩ := Option.map_eq_some_iff.mp named
  obtain ⟨choice', found', sameName⟩ := Option.map_eq_some_iff.mp otherNamed
  have member := List.mem_of_find?_eq_some found
  have member' := List.mem_of_find?_eq_some found'
  have value : choice.2 = mode.setWidth 64 := by
    simpa using List.find?_some found
  have value' : choice'.2 = other.setWidth 64 := by
    simpa using List.find?_some found'
  have sameChoice : choice = choice' := by
    simp only [platformProfileOptions, List.mem_cons, List.not_mem_nil,
      or_false] at member member'
    rcases member with rfl | rfl | rfl <;>
      rcases member' with rfl | rfl | rfl <;>
      first | rfl | exact absurd sameName (by decide)
  have sameValue : mode.setWidth 64 = other.setWidth 64 := by
    rw [← value, ← value', sameChoice]
  have numbers := congrArg BitVec.toNat sameValue
  rw [BitVec.toNat_setWidth, BitVec.toNat_setWidth,
    Nat.mod_eq_of_lt (by omega), Nat.mod_eq_of_lt (by omega)] at numbers
  exact BitVec.toNat_inj.mp numbers

theorem profileInForce_iff {σ : Type} {session : Session σ}
    (keeps : KeepsOption session) :
    ProfileInForce session ↔ session.setting.InForce := by
  obtain ⟨kept, keptName⟩ := profileName_of_lt keeps
  have shown := platformProfileShow_eq session.driverData
  rw [keptName] at shown
  constructor
  · rintro ⟨mode, name, accepted, named, shows⟩
    rw [shown] at shows
    have sameText := congrArg String.toList (Except.ok.inj shows)
    simp only [String.toList_append, List.append_cancel_right_eq,
      String.toList_inj] at sameText
    subst sameText
    have sameMode := profileName_inj named keptName
    exact accepted.trans (congrArg some sameMode)
  · intro inForce
    exact ⟨_, kept, inForce, keptName, shown⟩

section Runs

variable {σ : Type} (environment : Environment wmiSignature σ)

theorem keepsOption_storeStep (store : String × Nat) {session : Session σ}
    (keeps : KeepsOption session) :
    KeepsOption (storeStep environment store session) := by
  rw [KeepsOption, storeStep]
  cases named : platformProfileValue store.1 with
  | none =>
      rw [platformProfileStore_eq_of_none named, Program.run_pure]
      exact keeps
  | some value =>
      rw [platformProfileStore_eq named, Program.run_map]
      exact mode_of_platformProfileValue named

/-- The mode of a store is accepted, or it is the one that is kept. -/
def AcceptedOrKept (store : String × Nat) (session : Session σ) : Prop :=
  ∀ value, platformProfileValue store.1 = some value →
    firmwareAccepts environment session.firmware (value.setWidth 8) = true ∨
      value.setWidth 8 = session.driverData.currentProfileValue

theorem acceptedOrKept_iff (store : String × Nat) (session : Session σ) :
    AcceptedOrKept environment store session ↔
      Setting.RefusesOnlyKept (storeAttempt environment store session)
        session.setting := by
  constructor
  · intro accepted mode refused
    obtain ⟨value, named, same⟩ := Option.map_eq_some_iff.mp refused
    have isMode : value.setWidth 8 = mode := congrArg Prod.fst same
    have refuses :
        firmwareAccepts environment session.firmware (value.setWidth 8) =
          false := congrArg Prod.snd same
    rcases accepted value named with accepts | kept
    · rw [refuses] at accepts
      exact absurd accepts Bool.false_ne_true
    · exact isMode.symm.trans kept
  · intro refuses value named
    cases accepts : firmwareAccepts environment session.firmware
        (value.setWidth 8) with
    | true => exact Or.inl rfl
    | false =>
        apply Or.inr
        apply refuses
        rw [storeAttempt, named, Option.map_some, accepts]

/-- A store that returns an error leaves what is shown as it is. -/
def FailureKeepsProfile (store : String × Nat) (session : Session σ) :
    Prop :=
  storeResult environment store session < 0 →
    platformProfileShow (storeStep environment store session).driverData =
      platformProfileShow session.driverData

/-- A probe that succeeds keeps the default and has asked for it. -/
theorem probed_default {firmware : σ} {allocated : Bool} {dmi : Dmi}
    {createGroup : Int} {driverData : DriverData}
    (probed : ((tuxedoNb04PowerProfilesProbe allocated dmi createGroup).run
      environment firmware).1 = (0, some driverData)) :
    driverData.currentProfileValue = defaultProfile ∧
      (tuxedoNb04PowerProfilesProbe allocated dmi createGroup).trace
          environment firmware =
        (setSystemMode defaultProfile).trace environment firmware := by
  unfold tuxedoNb04PowerProfilesProbe at probed ⊢
  split at probed
  case isTrue =>
      rw [Program.run_pure] at probed
      cases probed
  case isFalse found =>
      rw [if_neg found]
      split at probed
      case isTrue =>
          rw [Program.run_pure] at probed
          cases probed
      case isFalse other =>
          rw [if_neg other]
          simp only [Program.run_bind] at probed
          split at probed
          case isTrue =>
              rw [Program.run_pure] at probed
              cases probed
          case isFalse created =>
              rw [Program.run_pure] at probed
              cases probed
              refine ⟨rfl, ?_⟩
              rw [Program.trace_bind, if_neg created, Program.trace_pure,
                List.append_nil]
              rfl

/-- What is shown is in force over a run, and no failed store changes it,
exactly if the firmware accepts the default and then every mode but those
that are kept already. -/
theorem profileInForce_throughout_iff {firmware : σ} {allocated : Bool}
    {dmi : Dmi} {createGroup : Int} {driverData : DriverData}
    (probed : ((tuxedoNb04PowerProfilesProbe allocated dmi createGroup).run
      environment firmware).1 = (0, some driverData))
    (stores : List (String × Nat)) :
    let probe := tuxedoNb04PowerProfilesProbe allocated dmi createGroup
    let start : Session σ :=
      { driverData
        firmware := (probe.run environment firmware).2
        log := probe.trace environment firmware }
    (Throughout (storeStep environment) ProfileInForce stores start ∧
      EachStep (storeStep environment) (FailureKeepsProfile environment)
        stores start) ↔
      firmwareAccepts environment firmware defaultProfile = true ∧
        EachStep (storeStep environment) (AcceptedOrKept environment)
          stores start := by
  intro probe start
  obtain ⟨isDefault, asked⟩ := probed_default environment probed
  obtain ⟨-, -, accepted⟩ :=
    run_setSystemMode environment firmware
      (show defaultProfile < wmiSystemModeEnd by decide)
  have startKeeps : KeepsOption start := by
    change driverData.currentProfileValue < wmiSystemModeEnd
    rw [isDefault]
    decide
  have startSetting : start.setting.InForce ↔
      firmwareAccepts environment firmware defaultProfile = true := by
    have log : lastAccepted start.log =
        (if firmwareAccepts environment firmware defaultProfile = true then
          [defaultProfile] else []).getLast? := by
      rw [lastAccepted, ← accepted, ← asked]
    change lastAccepted start.log =
      some driverData.currentProfileValue ↔ _
    rw [log, isDefault]
    cases firmwareAccepts environment firmware defaultProfile with
    | true => exact iff_of_true rfl rfl
    | false => exact iff_of_false (fun none => nomatch none) nofun
  have sameProperty :
      Throughout (storeStep environment) ProfileInForce stores start ↔
        Throughout (storeStep environment)
          (fun reached => reached.setting.InForce) stores start := by
    have same : ∀ reached : Session σ, KeepsOption reached →
        (ProfileInForce reached ↔ reached.setting.InForce) :=
      fun _ keeps => profileInForce_iff keeps
    have preserved : ∀ store (reached : Session σ), KeepsOption reached →
        KeepsOption (storeStep environment store reached) :=
      fun store _ keeps => keepsOption_storeStep environment store keeps
    exact throughout_congr_of_invariant same preserved stores startKeeps
  have sameCondition :
      EachStep (storeStep environment) (AcceptedOrKept environment) stores
          start ↔
        EachStep (storeStep environment)
          (fun store reached =>
            Setting.RefusesOnlyKept (storeAttempt environment store reached)
              reached.setting)
          stores start :=
    eachStep_congr (acceptedOrKept_iff environment) stores start
  have shownAlone : ∀ store (reached : Session σ),
      (storeResult environment store reached < 0 →
        (storeStep environment store reached).setting.kept =
          reached.setting.kept) →
        FailureKeepsProfile environment store reached := by
    intro store reached kept failed
    have same : (storeStep environment store reached).driverData =
        reached.driverData :=
      congrArg DriverData.mk (kept failed)
    rw [same]
  have bothIff : start.setting.InForce → (_ ↔ _) :=
    Setting.throughout_inForce_and_eachStep_iff
      (setting_storeStep environment) (storeAttempt_of_error environment)
      shownAlone stores
  rw [sameProperty, sameCondition]
  constructor
  · intro both
    have startInForce : start.setting.InForce :=
      both.1 [] List.nil_prefix
    exact ⟨startSetting.mp startInForce, (bothIff startInForce).mp both⟩
  · rintro ⟨accepts, refuses⟩
    exact (bothIff (startSetting.mpr accepts)).mpr refuses

end Runs

/-! ## Firmware that fails after some calls -/

/-- The state is the number of calls that still succeed. -/
def limitedFirmware : Environment wmiSignature Nat
  | .evaluateMethod _ _ _, 0 => (.failure, 0)
  | .evaluateMethod _ _ _, left + 1 =>
      (.success (some (.buffer (List.replicate 80 0))), left)
  | .getWmiDev, left => (some 0, left)
  | .tuxedoIsCompatible, left => (true, left)
  | .wmiHasGuid, left => (true, left)
  | .devmKzalloc _, left => (true, left)
  | .setWmiDev _, left => ((), left)
  | .setDrvdata _, left => ((), left)

/-- After a probe on a machine without DMI strings. -/
def limitedStart (calls : Nat) : Session Nat :=
  let probe := tuxedoNb04PowerProfilesProbe true (fun _ => none) 0
  { driverData := { currentProfileValue := defaultProfile }
    firmware := (probe.run limitedFirmware calls).2
    log := probe.trace limitedFirmware calls }

theorem profileInForce_throughout_iff_balanced :
    Throughout (storeStep limitedFirmware) ProfileInForce
      [("balanced\n", 9)] (limitedStart 2) := by
  have probed :
      ((tuxedoNb04PowerProfilesProbe true (fun _ => none) 0).run
          limitedFirmware 2).1 =
        (0, some { currentProfileValue := defaultProfile }) := rfl
  refine
    ((profileInForce_throughout_iff limitedFirmware probed
      [("balanced\n", 9)]).mpr ⟨rfl, ?_, trivial⟩).1
  intro value _
  exact Or.inl rfl

/-- A profile that the firmware refuses is shown all the same. -/
theorem refused_profile_is_shown :
    let store := ("low-power\n", 10)
    let stored := storeStep limitedFirmware store (limitedStart 1)
    storeResult limitedFirmware store (limitedStart 1) = -eio ∧
      platformProfileShow (limitedStart 1).driverData =
        .ok "performance\n" ∧
      platformProfileShow stored.driverData = .ok "low-power\n" ∧
      lastAccepted stored.log = some wmiSystemModeBeast ∧
      ¬ Throughout (storeStep limitedFirmware) ProfileInForce [store]
        (limitedStart 1) ∧
      ¬ FailureKeepsProfile limitedFirmware store (limitedStart 1) := by
  intro store stored
  have failed :
      storeResult limitedFirmware store (limitedStart 1) = -eio := by
    decide
  have before : platformProfileShow (limitedStart 1).driverData =
      .ok "performance\n" := by
    decide
  have shown :
      platformProfileShow stored.driverData = .ok "low-power\n" := by
    decide
  have accepted :
      lastAccepted stored.log = some wmiSystemModeBeast := by
    decide
  refine ⟨failed, before, shown, accepted, ?_, ?_⟩
  · intro throughout
    obtain ⟨mode, name, inForce, named, shows⟩ :=
      throughout [store] (List.prefix_refl _)
    have isBeast : wmiSystemModeBeast = mode :=
      Option.some.inj (accepted.symm.trans inForce)
    have isPerformance : "performance" = name := by
      subst isBeast
      exact Option.some.inj named
    subst isPerformance
    have same := shown.symm.trans shows
    exact absurd same (by decide)
  · intro keeps
    have same := keeps (failed ▸ (by decide))
    rw [before] at same
    have different := shown.symm.trans same
    exact absurd different (by decide)

end TuxedoDrivers.Nb04.PowerProfiles
