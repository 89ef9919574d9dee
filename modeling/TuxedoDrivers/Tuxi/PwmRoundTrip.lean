import Mathlib.Logic.Function.Basic
import TuxedoDrivers.Interaction.Runs
import TuxedoDrivers.Tuxi.FanControl

/-!
# What the speed of a fan is shown as

Where the firmware stores a speed for each fan, the speed stored for a fan is
the duty of the last store to it.  The attribute shows the status of the getter
instead of the speed.
-/

namespace TuxedoDrivers.Tuxi

open Interaction

/-! ## Stored values -/

/-- The value that a store of `pwmData` is to lead to. -/
def normalisedPwm (pwmData : U8) : U8 :=
  if pwmData.toNat ≤ 31 then 0
  else if pwmData.toNat ≤ 62 then 63
  else pwmData

theorem dutyOfPwm_eq_normalisedPwm (pwmData : U8) :
    dutyOfPwm pwmData = normalisedPwm pwmData := by
  revert pwmData
  decide +kernel

theorem normalisedPwm_eq_zero_iff (pwmData : U8) :
    normalisedPwm pwmData = 0 ↔ pwmData.toNat ≤ 31 := by
  revert pwmData
  decide +kernel

/-! ## Stores to the two fans -/

inductive PwmFan where
  | fan1
  | fan2
  deriving DecidableEq, Repr

/-- The index of a fan, as the firmware takes it. -/
def PwmFan.index : PwmFan → U64
  | .fan1 => 0
  | .fan2 => 1

def PwmFan.pwmShow : PwmFan → U8 → Acpi String
  | .fan1 => fan1PwmShow
  | .fan2 => fan2PwmShow

def PwmFan.pwmStore : PwmFan → String → Nat → Acpi Int
  | .fan1 => fan1PwmStore
  | .fan2 => fan2PwmStore

theorem PwmFan.index_inj {fan other : PwmFan} :
    fan.index = other.index ↔ fan = other := by
  cases fan <;> cases other <;> decide

/-- A text written to the attribute of a fan that is a byte. -/
structure PwmStore where
  fan : PwmFan
  buffer : String
  size : Nat
  value : U8
  parses : kstrtou8 buffer 0 = .ok value

def lastStored (fan : PwmFan) : List PwmStore → Option U8
  | [] => none
  | item :: rest =>
      (lastStored fan rest).or
        (if item.fan = fan then some item.value else none)

section Firmware

variable {σ : Type} (environment : Environment tuxiSignature σ)

def storeStep (item : PwmStore) (state : σ) : σ :=
  ((item.fan.pwmStore item.buffer item.size).run environment state).2

/-- The driver is bound, `SSPD` stores the speed of a fan and returns 0, and
`GSPD` returns the stored speed. -/
structure StoresSpeeds (handle : Handle) (speed : σ → U64 → U64) : Prop where
  bound : ∀ state,
    (environment .getDriverData state).1 = some (some handle)
  boundKeeps : ∀ state,
    speed (environment .getDriverData state).2 = speed state
  accepts : ∀ index value state,
    (environment (.evaluateInteger handle "SSPD" [index, value])
      state).1 = some 0
  stores : ∀ index value state,
    speed (environment (.evaluateInteger handle "SSPD" [index, value])
      state).2 = Function.update (speed state) index value
  answers : ∀ index state,
    (environment (.evaluateInteger handle "GSPD" [index]) state).1 =
      some (speed state index)

variable {environment} {handle : Handle} {speed : σ → U64 → U64}

/-- A method of a bound driver is evaluated. -/
theorem StoresSpeeds.run_tfanMethod
    (firmware : StoresSpeeds environment handle speed) (pathname : String)
    (args : List U64) (state : σ) :
    (tfanMethod pathname args).run environment state =
      (match (environment (.evaluateInteger handle pathname args)
          (environment .getDriverData state).2).1 with
        | none => .error (-eio)
        | some retval => .ok retval,
        (environment (.evaluateInteger handle pathname args)
          (environment .getDriverData state).2).2) := by
  have first :
      (request .getDriverData).run environment state =
        environment .getDriverData state := rfl
  have second :
      (request (.evaluateInteger handle pathname args)).run environment
          (environment .getDriverData state).2 =
        environment (.evaluateInteger handle pathname args)
          (environment .getDriverData state).2 := rfl
  rw [tfanMethod, Program.run_bind, first, firmware.bound]
  simp only [evaluateIntparams, Program.run_bind, second]
  cases (environment (.evaluateInteger handle pathname args)
      (environment .getDriverData state).2).1 with
  | none =>
      rfl
  | some retval =>
      rfl

theorem StoresSpeeds.speed_storeStep
    (firmware : StoresSpeeds environment handle speed) (item : PwmStore)
    (state : σ) :
    speed (storeStep environment item state) =
      Function.update (speed state) item.fan.index
        ((dutyOfPwm item.value).setWidth 64) := by
  have kept : ∀ fanIndex : U8,
      speed ((fanPwmStore fanIndex item.buffer item.size).run environment
          state).2 =
        Function.update (speed state) (fanIndex.setWidth 64)
          ((dutyOfPwm item.value).setWidth 64) := by
    intro fanIndex
    simp only [fanPwmStore, item.parses, tuxiSetFanSpeed, tuxiSet,
      Program.run_bind, firmware.run_tfanMethod, firmware.accepts]
    simp [firmware.stores, firmware.boundKeeps]
  rw [storeStep]
  cases item.fan with
  | fan1 =>
      exact kept 0
  | fan2 =>
      exact kept 1

/-- Every fan has the speed of the last store to it, whatever was stored for
the other one. -/
theorem StoresSpeeds.speed_runSteps
    (firmware : StoresSpeeds environment handle speed) (fan : PwmFan)
    (items : List PwmStore) (state : σ) :
    speed (runSteps (storeStep environment) items state) fan.index =
      ((lastStored fan items).map fun value =>
        (dutyOfPwm value).setWidth 64).getD (speed state fan.index) := by
  induction items generalizing state with
  | nil =>
      rfl
  | cons item rest inductionHypothesis =>
      rw [runSteps_cons, inductionHypothesis, firmware.speed_storeStep,
        lastStored]
      cases lastStored fan rest with
      | some value =>
          rfl
      | none =>
          by_cases same : item.fan = fan
          · simp [same]
          · have other : fan.index ≠ item.fan.index := fun equal =>
              same (PwmFan.index_inj.mp equal.symm)
            simp [same, other]

/-- The status of the getter is shown, which is 0 for a stored speed. -/
theorem StoresSpeeds.run_pwmShow
    (firmware : StoresSpeeds environment handle speed) (fan : PwmFan)
    (left : U8) (state : σ)
    (stored : signedNegative (speed state fan.index) = false) :
    ((fan.pwmShow left).run environment state).1 = sysfsEmitByte 0 := by
  have shown : ∀ fanIndex : U8,
      signedNegative (speed state (fanIndex.setWidth 64)) = false →
      ((fanPwmShow fanIndex left).run environment state).1 =
        sysfsEmitByte 0 := by
    intro fanIndex nonnegative
    simp only [fanPwmShow, tuxiGetFanSpeed, tuxiGet, Program.run_bind,
      firmware.run_tfanMethod, firmware.answers, firmware.boundKeeps,
      nonnegative, Program.run_ite, Program.run_pure]
    rw [if_neg Bool.false_ne_true]
    have statusShown : BitVec.ofNat 8 ((BitVec.ofInt 8 0).toNat * 255 /
        fanSetDutyMax) = (0 : U8) := by decide
    exact congrArg sysfsEmitByte statusShown
  cases fan with
  | fan1 =>
      exact shown 0 stored
  | fan2 =>
      exact shown 1 stored

end Firmware

/-! ## The round trip -/

theorem signedNegative_setWidth (byte : U8) :
    signedNegative (byte.setWidth 64) = false := by
  revert byte
  decide +kernel

theorem sysfsEmitByte_inj {byte other : U8} :
    sysfsEmitByte byte = sysfsEmitByte other ↔ byte = other := by
  constructor
  · intro equal
    have read := kstrtou8_sysfsEmitByte byte
    rw [equal, kstrtou8_sysfsEmitByte other] at read
    exact (Except.ok.inj read).symm
  · exact congrArg sysfsEmitByte

/-- After the stores the attribute of a fan shows the normalised value of the
last store to it. -/
def ShowsLastStored {σ : Type} (environment : Environment tuxiSignature σ)
    (items : List PwmStore) (fan : PwmFan) (left : U8) (state : σ) : Prop :=
  ∀ value ∈ lastStored fan items,
    ((fan.pwmShow left).run environment
      (runSteps (storeStep environment) items state)).1 =
        sysfsEmitByte (normalisedPwm value)

/-- Only a fan that was turned off is shown with the speed stored for it. -/
theorem showsLastStored_iff {σ : Type}
    {environment : Environment tuxiSignature σ} {handle : Handle}
    {speed : σ → U64 → U64}
    (firmware : StoresSpeeds environment handle speed)
    (items : List PwmStore) (fan : PwmFan) (left : U8) (state : σ) :
    ShowsLastStored environment items fan left state ↔
      ∀ value ∈ lastStored fan items, value.toNat ≤ 31 := by
  apply forall₂_congr
  intro value last
  have speedOfFan := firmware.speed_runSteps fan items state
  rw [Option.mem_def.mp last, Option.map_some, Option.getD_some] at speedOfFan
  have nonnegative : signedNegative
      (speed (runSteps (storeStep environment) items state) fan.index) =
        false := by
    rw [speedOfFan]
    exact signedNegative_setWidth _
  rw [firmware.run_pwmShow fan left _ nonnegative, sysfsEmitByte_inj,
    ← normalisedPwm_eq_zero_iff, eq_comm]

/-- Firmware whose state is the stored speeds. -/
def speedFirmware : Environment tuxiSignature (U64 → U64)
  | .getDriverData, speeds => (some (some 1), speeds)
  | .evaluateInteger _ pathname params, speeds =>
      match params with
      | [index, value] =>
          if pathname = "SSPD" then
            (some 0, Function.update speeds index value)
          else (some 0, speeds)
      | [index] => (some (speeds index), speeds)
      | _ => (some 0, speeds)

theorem speedFirmware_storesSpeeds :
    StoresSpeeds speedFirmware 1 (fun speeds => speeds) where
  bound := fun _ => rfl
  boundKeeps := fun _ => rfl
  accepts := fun _ _ _ => rfl
  stores := fun _ _ _ => rfl
  answers := fun _ _ => rfl

theorem showsLastStored_iff_off :
    ShowsLastStored speedFirmware
        [⟨.fan1, "30", 2, 30, by decide⟩, ⟨.fan2, "200", 3, 200, by decide⟩]
        .fan1 7 (fun _ => 0) ↔
      ∀ value ∈ lastStored .fan1
        [⟨.fan1, "30", 2, 30, by decide⟩, ⟨.fan2, "200", 3, 200, by decide⟩],
        value.toNat ≤ 31 :=
  showsLastStored_iff speedFirmware_storesSpeeds _ _ _ _

/-- A stored speed of half the maximum is shown as 0. -/
theorem stored_speed_is_shown_as_zero :
    ¬ ShowsLastStored speedFirmware
      [⟨.fan1, "128", 3, 128, by decide⟩] .fan1 0 (fun _ => 0) := by
  intro shows
  exact absurd (shows 128 rfl) (by decide)

end TuxedoDrivers.Tuxi
