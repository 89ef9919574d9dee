import Mathlib.Logic.Function.Iterate
import TuxedoDrivers.Nb05.FanControl

/-!
# Reading a fan speed and storing it again

A speed is stored as a duty and shown as a speed again.  Both conversions
round down, so a speed that is shown is stored as a lower duty than the one it
was read from, unless the duty is at an end of the range: what is shown and
stored over and over again drifts down to the lowest duty that keeps the fan
turning.
-/

namespace TuxedoDrivers.Nb05

open Interaction

/-! ## Showing a speed -/

/-- `DUTY_TO_PWM`. -/
def dutyToPwm (dutyData : U8) : U8 :=
  BitVec.ofNat 8 (dutyData.toNat * 0xff / fanSetDutyMax)

def readFan1DutyRanges : Ec U8 :=
  nb05ReadEcRam 0x2c1

def readFan1DutyOnereg : Ec U8 :=
  nb05ReadEcRam 0x1809

def readFan2Duty : Ec U8 :=
  nb05ReadEcRam 0x0241

/-- The text in the buffer; its length is what the function returns. -/
def fan1PwmShow (driverData : DriverData) : Ec String := do
  let dutyData ←
    if driverData.ecData.devData.fanctlOnereg = true then
      readFan1DutyOnereg
    else readFan1DutyRanges
  return sysfsEmitByte (dutyToPwm dutyData)

def fan2PwmShow : Ec String := do
  let dutyData ← readFan2Duty
  return sysfsEmitByte (dutyToPwm dutyData)

namespace Fan

def pwmShow (driverData : DriverData) : Fan → Ec String
  | .fan1 => fan1PwmShow driverData
  | .fan2 => fan2PwmShow

/-- What is shown is stored. -/
def pwmReadBack (fan : Fan) (driverData : DriverData) : Ec Int := do
  let text ← fan.pwmShow driverData
  fan.pwmStore driverData text text.length

/-- The register that is shown. -/
def shownRegister (fan : Fan) (fanctlOnereg : Bool) : U16 :=
  match fan with
  | .fan1 => if fanctlOnereg = true then 0x1809 else 0x2c1
  | .fan2 => 0x0241

/-- The registers that a duty is written to. -/
def DutyRegister (fan : Fan) (fanctlOnereg : Bool) (address : U16) : Prop :=
  if fan = .fan1 ∧ fanctlOnereg = true then address = 0x1809
  else
    fan.dutyTable ≤ address.toNat ∧ address.toNat ≤ fan.dutyTable + 8

end Fan

/-! ## Duties -/

/-- The duty that a duty becomes when it is shown and stored. -/
def nextDuty (duty : U8) : U8 :=
  normalisedDuty (dutyToPwm duty)

/-- Off, the lowest duty that keeps the fan turning, or the highest. -/
def EndDuty (duty : U8) : Prop :=
  duty.toNat = 0 ∨ duty.toNat = 46 ∨ duty.toNat = 184

instance (duty : U8) : Decidable (EndDuty duty) :=
  inferInstanceAs (Decidable (_ ∨ _))

theorem toNat_dutyToPwm {duty : U8} (inRange : duty.toNat ≤ 184) :
    (dutyToPwm duty).toNat = duty.toNat * 0xff / 184 := by
  rw [dutyToPwm, fanSetDutyMax]
  exact toNat_ofNat_of_lt (by omega)

theorem toNat_normalisedDuty (pwmData : U8) :
    (normalisedDuty pwmData).toNat =
      if pwmData.toNat * 184 / 0xff ≤ 23 then 0
      else if pwmData.toNat * 184 / 0xff < 46 then 46
      else pwmData.toNat * 184 / 0xff := by
  rw [normalisedDuty, toNat_fanOffOrOn (by decide), toNat_pwmToDuty]
  rfl

theorem normalisedDuty_inRange (pwmData : U8) :
    (normalisedDuty pwmData).toNat = 0 ∨
      46 ≤ (normalisedDuty pwmData).toNat ∧
        (normalisedDuty pwmData).toNat ≤ 184 := by
  rcases normalisedDuty_range pwmData with off | on
  · rw [off]
    exact Or.inl rfl
  · exact Or.inr on

/-- The two roundings lower every duty by one, but for the ends of the
range. -/
theorem toNat_nextDuty {duty : U8}
    (inRange : duty.toNat = 0 ∨ 46 ≤ duty.toNat ∧ duty.toNat ≤ 184) :
    (nextDuty duty).toNat =
      if EndDuty duty then duty.toNat else duty.toNat - 1 := by
  have scaled : (dutyToPwm duty).toNat = duty.toNat * 0xff / 184 :=
    toNat_dutyToPwm (by omega)
  rw [nextDuty, toNat_normalisedDuty, scaled]
  by_cases ends : EndDuty duty
  · rw [if_pos ends]
    rcases ends with zero | lowest | highest
    · rw [zero]
      rfl
    · rw [lowest]
      rfl
    · rw [highest]
      rfl
  · rw [if_neg ends]
    unfold EndDuty at ends
    split_ifs <;> omega

theorem nextDuty_eq_self_iff {duty : U8}
    (inRange : duty.toNat = 0 ∨ 46 ≤ duty.toNat ∧ duty.toNat ≤ 184) :
    nextDuty duty = duty ↔ EndDuty duty := by
  rw [← BitVec.toNat_inj, toNat_nextDuty inRange]
  split
  · simp [*]
  case isFalse inside =>
    refine iff_of_false ?_ inside
    unfold EndDuty at inside
    omega

/-- The speeds whose duty is at an end of the range. -/
theorem endDuty_normalisedDuty_iff (pwmData : U8) :
    EndDuty (normalisedDuty pwmData) ↔
      pwmData.toNat ≤ 65 ∨ pwmData.toNat = 255 := by
  have bound := pwmData.isLt
  rw [EndDuty, toNat_normalisedDuty]
  split_ifs <;> omega

/-- Over and over again, a duty inside the range goes down to the lowest. -/
theorem toNat_nextDuty_iterate (cycles : Nat) {duty : U8}
    (inside : 46 ≤ duty.toNat ∧ duty.toNat < 184) :
    (nextDuty^[cycles] duty).toNat = max 46 (duty.toNat - cycles) := by
  induction cycles generalizing duty with
  | zero =>
      rw [Function.iterate_zero, id, Nat.sub_zero, max_eq_right inside.1]
  | succ cycles inductionHypothesis =>
      have next := toNat_nextDuty (Or.inr ⟨inside.1, inside.2.le⟩)
      rw [Function.iterate_succ_apply]
      by_cases ends : EndDuty duty
      · have lowest : duty.toNat = 46 := by
          unfold EndDuty at ends
          omega
        rw [if_pos ends] at next
        rw [inductionHypothesis (next.symm ▸ inside), next]
        omega
      · rw [if_neg ends] at next
        unfold EndDuty at ends
        rw [inductionHypothesis (by omega), next]
        omega

theorem nextDuty_iterate_eq_self_iff {duty : U8}
    (inRange : duty.toNat = 0 ∨ 46 ≤ duty.toNat ∧ duty.toNat ≤ 184) :
    (∀ cycles, nextDuty^[cycles] duty = duty) ↔ EndDuty duty := by
  rw [← nextDuty_eq_self_iff inRange]
  exact
    ⟨fun stable => stable 1, fun fixed cycles =>
      Function.iterate_fixed fixed cycles⟩

/-! ## Cycles -/

section Cycles

variable (fan : Fan) (driverData : DriverData)

/-- The speed that is shown of a speed. -/
def shownPwm (pwmData : U8) : U8 :=
  dutyToPwm (normalisedDuty pwmData)

theorem normalisedDuty_shownPwm_iterate (cycles : Nat) (pwmData : U8) :
    normalisedDuty (shownPwm^[cycles] pwmData) =
      nextDuty^[cycles] (normalisedDuty pwmData) := by
  have follows : Function.Semiconj normalisedDuty shownPwm nextDuty :=
    fun _ => rfl
  exact follows.iterate_right cycles pwmData

theorem run_pwmShow (ram : Ram) :
    (fan.pwmShow driverData).run ramEc ram =
      (sysfsEmitByte
          (dutyToPwm
            (ram (fan.shownRegister
              driverData.ecData.devData.fanctlOnereg))), ram) := by
  cases fan with
  | fan1 =>
      simp only [Fan.pwmShow, fan1PwmShow, Fan.shownRegister,
        readFan1DutyOnereg, readFan1DutyRanges, Program.run_bind,
        Program.run_ite, run_nb05ReadEcRam, Program.run_pure]
      split <;> rfl
  | fan2 => rfl

/-- A cycle stores the speed that is shown. -/
theorem run_pwmReadBack (ram : Ram) :
    ((fan.pwmReadBack driverData).run ramEc ram).2 =
      fan.withSpeed driverData
        (dutyToPwm
          (ram (fan.shownRegister
            driverData.ecData.devData.fanctlOnereg))) ram := by
  rw [Fan.pwmReadBack, Program.run_bind, run_pwmShow,
    run_pwmStore fan driverData (kstrtou8_sysfsEmitByte _)]

/-- A speed leaves nothing of the speed before it. -/
theorem withSpeed_withSpeed (first second : U8) (ram : Ram) :
    fan.withSpeed driverData second (fan.withSpeed driverData first ram) =
      fan.withSpeed driverData second ram := by
  funext address
  unfold Fan.withSpeed
  cases driverData.writeRpm with
  | false =>
      simp only [Bool.false_eq_true, if_false, Fan.withDuty, tableByte]
      split_ifs <;> rfl
  | true =>
      simp only [if_true, Fan.withRpm, Fan.withDuty, tableByte]
      split_ifs <;> rfl

theorem notRpm_of_dutyRegister {fan : Fan} {fanctlOnereg : Bool}
    {address : U16} (duty : fan.DutyRegister fanctlOnereg address) :
    ¬ (fan.rpmTable ≤ address.toNat ∧
      address.toNat ≤ fan.rpmTable + 8) := by
  have onereg : address = 0x1809 → address.toNat = 0x1809 := by
    rintro rfl
    rfl
  unfold Fan.DutyRegister at duty
  split at duty
  · have value := onereg duty
    cases fan <;> simp only [Fan.rpmTable] <;> omega
  · cases fan <;> simp only [Fan.dutyTable] at duty <;>
      simp only [Fan.rpmTable] <;> omega

/-- The duty registers only depend on the duty of the speed. -/
theorem withSpeed_dutyRegister {address : U16}
    (dutyRegister :
      fan.DutyRegister driverData.ecData.devData.fanctlOnereg address)
    (pwmData : U8) (ram : Ram) :
    fan.withSpeed driverData pwmData ram address =
      fan.withDuty driverData.ecData.devData.fanctlOnereg
        (normalisedDuty pwmData) ram address := by
  unfold Fan.withSpeed
  cases driverData.writeRpm with
  | false => rfl
  | true =>
      exact
        tableByte_of_outside (notRpm_of_dutyRegister dutyRegister) _ _ _

theorem dutyRegister_shownRegister (fanctlOnereg : Bool) :
    fan.DutyRegister fanctlOnereg (fan.shownRegister fanctlOnereg) := by
  cases fan <;> cases fanctlOnereg <;>
    simp [Fan.DutyRegister, Fan.shownRegister, Fan.dutyTable]

theorem withDuty_shownRegister (fanctlOnereg : Bool) (duty : U8)
    (ram : Ram) :
    fan.withDuty fanctlOnereg duty ram (fan.shownRegister fanctlOnereg) =
      duty := by
  cases fan <;> cases fanctlOnereg <;> rfl

theorem withSpeed_shownRegister (pwmData : U8) (ram : Ram) :
    fan.withSpeed driverData pwmData ram
        (fan.shownRegister driverData.ecData.devData.fanctlOnereg) =
      normalisedDuty pwmData := by
  rw [withSpeed_dutyRegister fan driverData
      (dutyRegister_shownRegister fan _), withDuty_shownRegister]

/-- Cycles after a store are the store of what is shown in the end. -/
theorem pwmReadBack_iterate (cycles : Nat) (pwmData : U8) (ram : Ram) :
    (fun reached => ((fan.pwmReadBack driverData).run ramEc reached).2)^[
        cycles] (fan.withSpeed driverData pwmData ram) =
      fan.withSpeed driverData (shownPwm^[cycles] pwmData) ram := by
  induction cycles generalizing pwmData with
  | zero => rfl
  | succ cycles inductionHypothesis =>
      rw [Function.iterate_succ_apply, run_pwmReadBack,
        withSpeed_shownRegister, withSpeed_withSpeed,
        Function.iterate_succ_apply]
      exact inductionHypothesis (shownPwm pwmData)

end Cycles

/-- Showing a stored speed and storing it again leaves the duty registers of
the fan as they are, however often, exactly for the speeds up to 65 and for
255. -/
theorem pwmReadBack_stable_iff (fan : Fan) (driverData : DriverData)
    {buffer : String} {pwmData : U8}
    (parses : kstrtou8 buffer 0 = .ok pwmData) (size : Nat) (ram : Ram) :
    let stored := ((fan.pwmStore driverData buffer size).run ramEc ram).2
    let readBack := fun reached =>
      ((fan.pwmReadBack driverData).run ramEc reached).2
    (∀ cycles address,
        fan.DutyRegister driverData.ecData.devData.fanctlOnereg address →
          readBack^[cycles] stored address = stored address) ↔
      pwmData.toNat ≤ 65 ∨ pwmData.toNat = 255 := by
  intro stored readBack
  have storedIs : stored = fan.withSpeed driverData pwmData ram := by
    simp only [stored, run_pwmStore fan driverData parses]
  have reachedIs : ∀ cycles,
      readBack^[cycles] stored =
        fan.withSpeed driverData (shownPwm^[cycles] pwmData) ram := by
    intro cycles
    rw [storedIs]
    exact pwmReadBack_iterate fan driverData cycles pwmData ram
  rw [← endDuty_normalisedDuty_iff,
    ← nextDuty_iterate_eq_self_iff (normalisedDuty_inRange pwmData)]
  constructor
  · intro stable cycles
    have shown :=
      stable cycles _ (dutyRegister_shownRegister fan _)
    rw [reachedIs, storedIs, withSpeed_shownRegister,
      withSpeed_shownRegister, normalisedDuty_shownPwm_iterate] at shown
    exact shown
  · intro stable cycles address duty
    rw [reachedIs, storedIs, withSpeed_dutyRegister fan driverData duty,
      withSpeed_dutyRegister fan driverData duty,
      normalisedDuty_shownPwm_iterate, stable]

theorem pwmReadBack_stable_iff_quarter :
    let driverData := tuxedoNb05FanControlProbe ⟨9, 8, dataPulse⟩
    let stored :=
      ((Fan.fan1.pwmStore driverData "64\n" 3).run ramEc fun _ => 0).2
    let readBack := fun reached =>
      ((Fan.fan1.pwmReadBack driverData).run ramEc reached).2
    ∀ cycles address, Fan.fan1.DutyRegister false address →
      readBack^[cycles] stored address = stored address :=
  (pwmReadBack_stable_iff .fan1 (tuxedoNb05FanControlProbe ⟨9, 8, dataPulse⟩)
    (show kstrtou8 "64\n" 0 = .ok 64 by decide) 3 _).mpr (by decide)

/-- Half of the highest speed is stored as duty 92, shown as 127 and then
stored as duty 91. -/
theorem pwmReadBack_half_drifts :
    let driverData := tuxedoNb05FanControlProbe ⟨9, 8, dataPulse⟩
    let stored :=
      ((fan1PwmStore driverData "128\n" 4).run ramEc fun _ => 0).2
    ((fan1PwmShow driverData).run ramEc stored).1 = "127\n" ∧
      stored 0x2c1 = 92 ∧
      ((Fan.fan1.pwmReadBack driverData).run ramEc stored).2 0x2c1 = 91 := by
  decide +kernel

/-- Any other speed that turns the fan goes down by one duty a cycle, to the
lowest one. -/
theorem pwmReadBack_drifts (fan : Fan) (driverData : DriverData)
    (pwmData : U8) (ram : Ram)
    (inside : 65 < pwmData.toNat ∧ pwmData.toNat < 255) (cycles : Nat) :
    ((fun reached => ((fan.pwmReadBack driverData).run ramEc reached).2)^[
        cycles] (fan.withSpeed driverData pwmData ram)
        (fan.shownRegister driverData.ecData.devData.fanctlOnereg)).toNat =
      max 46 ((normalisedDuty pwmData).toNat - cycles) := by
  have duty : 46 ≤ (normalisedDuty pwmData).toNat ∧
      (normalisedDuty pwmData).toNat < 184 := by
    rw [toNat_normalisedDuty]
    split_ifs <;> omega
  rw [pwmReadBack_iterate, withSpeed_shownRegister,
    normalisedDuty_shownPwm_iterate]
  exact toNat_nextDuty_iterate cycles duty

end TuxedoDrivers.Nb05
