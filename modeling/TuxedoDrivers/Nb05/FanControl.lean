import TuxedoDrivers.Nb05.EcRam
import TuxedoDrivers.Sysfs

/-!
# Fan control of the NB05 machines

The stores of `tuxedo_nb05_fan_control.c`.  A speed goes to the tables of a
fan as a duty, and on some firmware as a number of revolutions too.  Each has
a scale, a lowest value that keeps the fan turning and a table of registers of
its own.
-/

namespace TuxedoDrivers.Nb05

open Interaction

abbrev fanSetRpmMax : Nat := 54

abbrev fanSetDutyMax : Nat := 0xb8

abbrev fanOnMinSpeedPercent : Nat := 25

abbrev fanSetRpmHightemp : Nat := 15

abbrev fanSetDutyHightemp : Nat :=
  fanSetRpmHightemp * fanSetDutyMax / fanSetRpmMax

/-- `PWM_TO_RPM`. -/
def pwmToRpm (pwmData : U8) : U8 :=
  BitVec.ofNat 8 (pwmData.toNat * fanSetRpmMax / 0xff)

/-- `PWM_TO_DUTY`. -/
def pwmToDuty (pwmData : U8) : U8 :=
  BitVec.ofNat 8 (pwmData.toNat * fanSetDutyMax / 0xff)

/-- No value between fan-off and the minimum fan-on-speed. -/
def fanOffOrOn (max : Nat) (data : U8) : U8 :=
  if data.toNat ≤ fanOnMinSpeedPercent * max / 2 / 100 then 0
  else if data.toNat < fanOnMinSpeedPercent * max / 100 then
    BitVec.ofNat 8 (fanOnMinSpeedPercent * max / 100)
  else data

/-- At least the value for high temperatures. -/
def forHightemp (hightemp : Nat) (data : U8) : U8 :=
  if data.toNat < hightemp then BitVec.ofNat 8 hightemp else data

/-! ## Tables -/

/-- The writers of a table: one value to the registers from `first` to
`last`, and one for high temperatures to the two others. -/
def writeFanTable (max hightemp first last : Nat) (high higher : U16)
    (data : U8) : Ec Int := do
  if data.toNat > max then
    return -einval
  else
    writeRegisters first last (fanOffOrOn max data)
    nb05WriteEcRam high (forHightemp hightemp (fanOffOrOn max data))
    nb05WriteEcRam higher (forHightemp hightemp (fanOffOrOn max data))
    return 0

def writeFan1Rpm : U8 → Ec Int :=
  writeFanTable fanSetRpmMax fanSetRpmHightemp 0x02d0 0x02d6 0x02d7 0x02d8

def writeFan1DutyRanges : U8 → Ec Int :=
  writeFanTable fanSetDutyMax fanSetDutyHightemp 0x02c1 0x02c7 0x02c8 0x02c9

def writeFan1DutyOnereg (dutyData : U8) : Ec Int := do
  if dutyData.toNat > fanSetDutyMax then
    return -einval
  else
    nb05WriteEcRam 0x1809 (fanOffOrOn fanSetDutyMax dutyData)
    return 0

def writeFan2Rpm : U8 → Ec Int :=
  writeFanTable fanSetRpmMax fanSetRpmHightemp 0x0250 0x0256 0x0257 0x0258

def writeFan2Duty : U8 → Ec Int :=
  writeFanTable fanSetDutyMax fanSetDutyHightemp 0x0241 0x0247 0x0248 0x0249

/-! ## Attributes -/

/-- `struct driver_data_t`. -/
structure DriverData where
  ecData : EcData
  writeRpm : Bool
  deriving DecidableEq, Repr

/-- What the probe makes of the version of the firmware. -/
def tuxedoNb05FanControlProbe (ecData : EcData) : DriverData :=
  { ecData := ecData
    writeRpm :=
      if ecData.devData.fanctlOnereg = true then false
      else
        !(decide (9 ≤ ecData.verMajor.toNat) &&
          decide (10 ≤ ecData.verMinor.toNat)) }

/-- The two stores: the duty first, then the revolutions if wanted. -/
def fanPwmStore (writeDuty writeRevolutions : U8 → Ec Int)
    (writeRpm : Bool) (buffer : String) (size : Nat) : Ec Int := do
  match kstrtou8 buffer 0 with
  | .error _ => return -einval
  | .ok pwmData =>
      let err ← writeDuty (pwmToDuty pwmData)
      if err ≠ 0 then
        return err
      else if writeRpm = true then
        let err ← writeRevolutions (pwmToRpm pwmData)
        if err ≠ 0 then
          return err
        else
          return size
      else
        return size

def fan1PwmStore (driverData : DriverData) : String → Nat → Ec Int :=
  fanPwmStore
    (if driverData.ecData.devData.fanctlOnereg = true then
      writeFan1DutyOnereg
    else writeFan1DutyRanges)
    writeFan1Rpm driverData.writeRpm

def fan2PwmStore (driverData : DriverData) : String → Nat → Ec Int :=
  fanPwmStore writeFan2Duty writeFan2Rpm driverData.writeRpm

/-- `fan_control_attr_is_visible` for the attribute with this position in
`fan_control_attrs_list`. -/
def fanControlAttrIsVisible (driverData : DriverData) (position : Nat) :
    Bool :=
  decide (position < driverData.ecData.devData.numberFans * 2)

/-! ## The two fans -/

inductive Fan where
  | fan1
  | fan2
  deriving DecidableEq, Repr

namespace Fan

def pwmStore : Fan → DriverData → String → Nat → Ec Int
  | .fan1 => fan1PwmStore
  | .fan2 => fan2PwmStore

/-- The position of `fan1_pwm` and `fan2_pwm`. -/
def pwmPosition : Fan → Nat
  | .fan1 => 0
  | .fan2 => 2

end Fan

/-! ## Values -/

theorem toNat_ofNat_of_lt {value : Nat} (fits : value < 256) :
    (BitVec.ofNat 8 value).toNat = value := by
  rw [BitVec.toNat_ofNat]
  exact Nat.mod_eq_of_lt fits

/-- A scale from the whole byte to a maximum. -/
theorem scaled_le (pwmData : U8) (max : Nat) :
    pwmData.toNat * max / 0xff ≤ max := by
  have small : pwmData.toNat ≤ 255 := by omega
  have product : pwmData.toNat * max ≤ 255 * max :=
    Nat.mul_le_mul_right max small
  omega

theorem toNat_pwmToRpm (pwmData : U8) :
    (pwmToRpm pwmData).toNat = pwmData.toNat * fanSetRpmMax / 0xff := by
  have bounded : _ ≤ 54 := scaled_le pwmData fanSetRpmMax
  exact toNat_ofNat_of_lt (by omega)

theorem toNat_pwmToDuty (pwmData : U8) :
    (pwmToDuty pwmData).toNat = pwmData.toNat * fanSetDutyMax / 0xff := by
  have bounded : _ ≤ 184 := scaled_le pwmData fanSetDutyMax
  exact toNat_ofNat_of_lt (by omega)

theorem pwmToRpm_mono {lower upper : U8} (le : lower ≤ upper) :
    pwmToRpm lower ≤ pwmToRpm upper := by
  rw [BitVec.le_def, toNat_pwmToRpm, toNat_pwmToRpm]
  exact Nat.div_le_div_right (Nat.mul_le_mul_right _ le)

theorem pwmToDuty_mono {lower upper : U8} (le : lower ≤ upper) :
    pwmToDuty lower ≤ pwmToDuty upper := by
  rw [BitVec.le_def, toNat_pwmToDuty, toNat_pwmToDuty]
  exact Nat.div_le_div_right (Nat.mul_le_mul_right _ le)

theorem toNat_fanOffOrOn {max : Nat} (small : max < 256) (data : U8) :
    (fanOffOrOn max data).toNat =
      if data.toNat ≤ 25 * max / 2 / 100 then 0
      else if data.toNat < 25 * max / 100 then 25 * max / 100
      else data.toNat := by
  simp only [fanOffOrOn, fanOnMinSpeedPercent]
  split
  · rfl
  · split
    · exact toNat_ofNat_of_lt (by omega)
    · rfl

theorem fanOffOrOn_eq_zero_iff (max : Nat) (small : max < 256)
    (turns : 8 ≤ max) (data : U8) :
    fanOffOrOn max data = 0 ↔ data.toNat ≤ 25 * max / 2 / 100 := by
  rw [← BitVec.toNat_inj, toNat_fanOffOrOn small]
  change _ = 0 ↔ _
  split
  · simp only [*]
  · split <;> omega

theorem fanOffOrOn_range {max : Nat} (small : max < 256) {data : U8}
    (bounded : data.toNat ≤ max) :
    fanOffOrOn max data = 0 ∨
      25 * max / 100 ≤ (fanOffOrOn max data).toNat ∧
        (fanOffOrOn max data).toNat ≤ max := by
  rw [← BitVec.toNat_inj, toNat_fanOffOrOn small]
  change _ = 0 ∨ _
  split
  · exact Or.inl rfl
  · split <;> omega

theorem fanOffOrOn_mono {max : Nat} (small : max < 256) {lower upper : U8}
    (le : lower ≤ upper) : fanOffOrOn max lower ≤ fanOffOrOn max upper := by
  have values : lower.toNat ≤ upper.toNat := le
  rw [BitVec.le_def, toNat_fanOffOrOn small, toNat_fanOffOrOn small]
  by_cases lowerOff : lower.toNat ≤ 25 * max / 2 / 100
  · rw [if_pos lowerOff]
    exact Nat.zero_le _
  · have upperOn : ¬ upper.toNat ≤ 25 * max / 2 / 100 := by omega
    rw [if_neg lowerOff, if_neg upperOn]
    split <;> split <;> omega

/-- The duty of a speed. -/
def normalisedDuty (pwmData : U8) : U8 :=
  fanOffOrOn fanSetDutyMax (pwmToDuty pwmData)

/-- The revolutions of a speed. -/
def normalisedRpm (pwmData : U8) : U8 :=
  fanOffOrOn fanSetRpmMax (pwmToRpm pwmData)

/-- The two scales stop a fan at the same speeds. -/
theorem normalised_eq_zero_iff (pwmData : U8) :
    normalisedDuty pwmData = 0 ↔ normalisedRpm pwmData = 0 := by
  have duty :=
    fanOffOrOn_eq_zero_iff fanSetDutyMax (by decide) (by decide)
      (pwmToDuty pwmData)
  have rpm :=
    fanOffOrOn_eq_zero_iff fanSetRpmMax (by decide) (by decide)
      (pwmToRpm pwmData)
  rw [toNat_pwmToDuty] at duty
  rw [toNat_pwmToRpm] at rpm
  rw [normalisedDuty, normalisedRpm, duty, rpm, fanSetDutyMax,
    fanSetRpmMax]
  omega

theorem normalisedDuty_range (pwmData : U8) :
    normalisedDuty pwmData = 0 ∨
      46 ≤ (normalisedDuty pwmData).toNat ∧
        (normalisedDuty pwmData).toNat ≤ 184 := by
  apply fanOffOrOn_range (by decide)
  rw [toNat_pwmToDuty]
  exact scaled_le pwmData fanSetDutyMax

theorem normalisedRpm_range (pwmData : U8) :
    normalisedRpm pwmData = 0 ∨
      13 ≤ (normalisedRpm pwmData).toNat ∧
        (normalisedRpm pwmData).toNat ≤ 54 := by
  apply fanOffOrOn_range (by decide)
  rw [toNat_pwmToRpm]
  exact scaled_le pwmData fanSetRpmMax

theorem normalisedDuty_mono {lower upper : U8} (le : lower ≤ upper) :
    normalisedDuty lower ≤ normalisedDuty upper :=
  fanOffOrOn_mono (by decide) (pwmToDuty_mono le)

theorem normalisedRpm_mono {lower upper : U8} (le : lower ≤ upper) :
    normalisedRpm lower ≤ normalisedRpm upper :=
  fanOffOrOn_mono (by decide) (pwmToRpm_mono le)

/-! ## Effect of a store -/

/-- What is at an address after a table was written. -/
def tableByte (first : Nat) (low high before : U8) (address : U16) : U8 :=
  if first ≤ address.toNat ∧ address.toNat ≤ first + 6 then low
  else if first + 7 ≤ address.toNat ∧ address.toNat ≤ first + 8 then high
  else before

theorem forHightemp_eq_max (hightemp : Nat) (data : U8) :
    forHightemp hightemp data = BitVec.ofNat 8 (max data.toNat hightemp) := by
  simp only [forHightemp]
  split
  case isTrue below =>
    rw [max_eq_right (Nat.le_of_lt below)]
  case isFalse above =>
    rw [max_eq_left (Nat.le_of_not_lt above), BitVec.ofNat_toNat,
      BitVec.setWidth_eq]

theorem run_writeFanTable {max first : Nat} (hightemp : Nat)
    (fits : first + 8 < 2 ^ 16) {data : U8} (accepted : data.toNat ≤ max)
    (ram : Ram) :
    (writeFanTable max hightemp first (first + 6)
        (BitVec.ofNat 16 (first + 7)) (BitVec.ofNat 16 (first + 8)) data).run
        ramEc ram =
      (0, fun address =>
        tableByte first (fanOffOrOn max data)
          (BitVec.ofNat 8 (Max.max (fanOffOrOn max data).toNat hightemp))
          (ram address) address) := by
  have high : (BitVec.ofNat 16 (first + 7)).toNat = first + 7 := by
    rw [BitVec.toNat_ofNat]
    exact Nat.mod_eq_of_lt (by omega)
  have higher : (BitVec.ofNat 16 (first + 8)).toNat = first + 8 := by
    rw [BitVec.toNat_ofNat]
    exact Nat.mod_eq_of_lt fits
  simp only [writeFanTable, Nat.not_lt.mpr accepted, if_false,
    Program.run_bind, run_nb05WriteEcRam, Program.run_pure]
  refine Prod.ext rfl (funext fun address => ?_)
  simp only [Function.update_apply, ← BitVec.toNat_inj, high, higher,
    run_writeRegisters (show first + 6 < 2 ^ 16 by omega), tableByte,
    forHightemp_eq_max]
  split <;> split <;> grind

/-- The first register of the duty table and of the other one. -/
def Fan.dutyTable : Fan → Nat
  | .fan1 => 0x2c1
  | .fan2 => 0x241

def Fan.rpmTable : Fan → Nat
  | .fan1 => 0x2d0
  | .fan2 => 0x250

/-- The RAM with the duty of a fan set. -/
def Fan.withDuty (fan : Fan) (fanctlOnereg : Bool) (duty : U8) (ram : Ram) :
    Ram := fun address =>
  if fan = .fan1 ∧ fanctlOnereg = true then
    if address = 0x1809 then duty else ram address
  else
    tableByte fan.dutyTable duty (BitVec.ofNat 8 (max duty.toNat 51))
      (ram address) address

/-- The RAM with the revolutions of a fan set. -/
def Fan.withRpm (fan : Fan) (rpm : U8) (ram : Ram) : Ram := fun address =>
  tableByte fan.rpmTable rpm (BitVec.ofNat 8 (max rpm.toNat 15))
    (ram address) address

theorem run_fanPwmStore (fan : Fan)
    {writeDuty writeRevolutions : U8 → Ec Int} {fanctlOnereg : Bool}
    (duty : ∀ (data : U8) ram, data.toNat ≤ fanSetDutyMax →
      (writeDuty data).run ramEc ram =
        (0, fan.withDuty fanctlOnereg (fanOffOrOn fanSetDutyMax data) ram))
    (rpm : ∀ (data : U8) ram, data.toNat ≤ fanSetRpmMax →
      (writeRevolutions data).run ramEc ram =
        (0, fan.withRpm (fanOffOrOn fanSetRpmMax data) ram))
    {buffer : String} {pwmData : U8} (parses : kstrtou8 buffer 0 = .ok pwmData)
    (writeRpm : Bool) (size : Nat) (ram : Ram) :
    (fanPwmStore writeDuty writeRevolutions writeRpm buffer size).run ramEc
        ram =
      ((size : Int),
        if writeRpm = true then
          fan.withRpm (normalisedRpm pwmData)
            (fan.withDuty fanctlOnereg (normalisedDuty pwmData) ram)
        else fan.withDuty fanctlOnereg (normalisedDuty pwmData) ram) := by
  have dutyBound : (pwmToDuty pwmData).toNat ≤ fanSetDutyMax := by
    rw [toNat_pwmToDuty]
    exact scaled_le pwmData fanSetDutyMax
  have rpmBound : (pwmToRpm pwmData).toNat ≤ fanSetRpmMax := by
    rw [toNat_pwmToRpm]
    exact scaled_le pwmData fanSetRpmMax
  simp only [fanPwmStore, parses, Program.run_bind, duty _ _ dutyBound,
    ne_eq, not_true_eq_false, if_false]
  cases writeRpm with
  | false => rfl
  | true =>
      simp only [if_true, Program.run_bind, rpm _ _ rpmBound,
        not_true_eq_false, if_false]
      rfl

theorem run_writeFan1DutyOnereg {data : U8}
    (accepted : data.toNat ≤ fanSetDutyMax) (ram : Ram) :
    (writeFan1DutyOnereg data).run ramEc ram =
      (0, Fan.fan1.withDuty true (fanOffOrOn fanSetDutyMax data) ram) := by
  simp only [writeFan1DutyOnereg, Nat.not_lt.mpr accepted, if_false,
    Program.run_bind, run_nb05WriteEcRam, Program.run_pure]
  refine Prod.ext rfl (funext fun address => ?_)
  simp only [Function.update_apply, Fan.withDuty, and_self, if_true]

/-- The RAM with a speed of a fan set. -/
def Fan.withSpeed (fan : Fan) (driverData : DriverData) (pwmData : U8)
    (ram : Ram) : Ram :=
  let withDuty :=
    fan.withDuty driverData.ecData.devData.fanctlOnereg
      (normalisedDuty pwmData) ram
  if driverData.writeRpm = true then
    fan.withRpm (normalisedRpm pwmData) withDuty
  else withDuty

theorem run_pwmStore (fan : Fan) (driverData : DriverData)
    {buffer : String} {pwmData : U8}
    (parses : kstrtou8 buffer 0 = .ok pwmData) (size : Nat) (ram : Ram) :
    (fan.pwmStore driverData buffer size).run ramEc ram =
      ((size : Int), fan.withSpeed driverData pwmData ram) := by
  cases fan with
  | fan1 =>
      apply run_fanPwmStore .fan1 _ _ parses
      · intro data ram accepted
        cases driverData.ecData.devData.fanctlOnereg with
        | true => exact run_writeFan1DutyOnereg accepted ram
        | false =>
            exact
              run_writeFanTable fanSetDutyHightemp (by decide) accepted ram
      · intro data ram accepted
        exact run_writeFanTable fanSetRpmHightemp (by decide) accepted ram
  | fan2 =>
      apply run_fanPwmStore .fan2 _ _ parses
      · intro data ram accepted
        exact run_writeFanTable fanSetDutyHightemp (by decide) accepted ram
      · intro data ram accepted
        exact run_writeFanTable fanSetRpmHightemp (by decide) accepted ram

/-! ## Frame -/

/-- The registers of a fan's speed. -/
def Fan.Owns (fan : Fan) (address : U16) : Prop :=
  (fan.dutyTable ≤ address.toNat ∧ address.toNat ≤ fan.dutyTable + 8) ∨
    (fan.rpmTable ≤ address.toNat ∧ address.toNat ≤ fan.rpmTable + 8) ∨
    fan = .fan1 ∧ address = 0x1809

/-- The registers that switch between the driver and the firmware. -/
def enableRegisters : List U16 :=
  [0x2c0, 0x2f1, 0x240]

theorem tableByte_of_outside {first : Nat} {address : U16}
    (outside : ¬ (first ≤ address.toNat ∧ address.toNat ≤ first + 8))
    (low high before : U8) :
    tableByte first low high before address = before := by
  have notLow : ¬ (first ≤ address.toNat ∧ address.toNat ≤ first + 6) := by
    omega
  have notHigh :
      ¬ (first + 7 ≤ address.toNat ∧ address.toNat ≤ first + 8) := by
    omega
  rw [tableByte, if_neg notLow, if_neg notHigh]

theorem withSpeed_of_not_owns {fan : Fan} {address : U16}
    (notOwned : ¬ fan.Owns address) (driverData : DriverData)
    (pwmData : U8) (ram : Ram) :
    fan.withSpeed driverData pwmData ram address = ram address := by
  obtain ⟨notDuty, others⟩ := not_or.mp notOwned
  obtain ⟨notRpm, notOnereg⟩ := not_or.mp others
  have duty :
      fan.withDuty driverData.ecData.devData.fanctlOnereg
        (normalisedDuty pwmData) ram address = ram address := by
    simp only [Fan.withDuty]
    split
    case isTrue onereg =>
      rw [if_neg fun here => notOnereg ⟨onereg.1, here⟩]
    case isFalse =>
      exact tableByte_of_outside notDuty _ _ _
  simp only [Fan.withSpeed]
  split
  · rw [Fan.withRpm, tableByte_of_outside notRpm, duty]
  · exact duty

/-- A register of a fan is neither a switch nor one of the other fan. -/
theorem owned_apart {fan : Fan} {address : U16} (owned : fan.Owns address) :
    address ∉ enableRegisters ∧
      ∀ other, other ≠ fan → ¬ other.Owns address := by
  have onereg : address = 0x1809 → address.toNat = 0x1809 := by
    rintro rfl
    rfl
  constructor
  · intro switch
    have values : address.toNat = 0x2c0 ∨ address.toNat = 0x2f1 ∨
        address.toNat = 0x240 := by
      simp only [enableRegisters, List.mem_cons, List.not_mem_nil,
        or_false] at switch
      rcases switch with rfl | rfl | rfl <;> decide
    cases fan <;>
      simp only [Fan.Owns, Fan.dutyTable, Fan.rpmTable] at owned <;>
      rcases owned with duty | rpm | here
    all_goals try omega
    · have value := onereg here.2
      omega
    · exact absurd here.1 (by decide)
  · intro other different otherOwned
    cases fan <;> cases other <;>
      simp only [Fan.Owns, Fan.dutyTable, Fan.rpmTable, ne_eq,
        not_true_eq_false, reduceCtorEq, false_and, or_false, true_and,
        not_false_eq_true] at owned otherOwned different
    · rcases owned with duty | rpm | here
      · omega
      · omega
      · have value := onereg here
        omega
    · rcases otherOwned with duty | rpm | here
      · omega
      · omega
      · have value := onereg here
        omega

/-- A machine with one register has one fan, and no revolutions are
written. -/
theorem withSpeed_of_onereg {fan : Fan} {ecData : EcData}
    (listed : ecData.devData ∈ nb05Devices)
    (onereg : ecData.devData.fanctlOnereg = true)
    (visible :
      fanControlAttrIsVisible (tuxedoNb05FanControlProbe ecData)
        fan.pwmPosition = true) (pwmData : U8) (ram : Ram) (address : U16) :
    fan.withSpeed (tuxedoNb05FanControlProbe ecData) pwmData ram address =
      if address = 0x1809 then normalisedDuty pwmData else ram address := by
  have oneFan : ecData.devData.numberFans = 1 := by
    simp only [nb05Devices, List.mem_cons, List.not_mem_nil, or_false,
      or_self_left] at listed
    rcases listed with pulse | infinityflex
    · rw [pulse] at onereg
      cases onereg
    · rw [infinityflex]
      rfl
  have first : fan = .fan1 := by
    cases fan with
    | fan1 => rfl
    | fan2 =>
        simp [fanControlAttrIsVisible, tuxedoNb05FanControlProbe, oneFan,
          Fan.pwmPosition] at visible
  simp only [Fan.withSpeed, tuxedoNb05FanControlProbe, onereg, if_true,
    Bool.false_eq_true, if_false, Fan.withDuty, first, and_self]

/-! ## All of it -/

/-- The speed is accepted, the tables of the fan get it and nothing else
changes. -/
theorem fanTables_consistent (fan : Fan) (driverData : DriverData)
    {buffer : String} {pwmData : U8}
    (parses : kstrtou8 buffer 0 = .ok pwmData) (size : Nat) (ram : Ram) :
    (fan.pwmStore driverData buffer size).run ramEc ram =
        ((size : Int), fan.withSpeed driverData pwmData ram) ∧
      (∀ address, ¬ fan.Owns address →
        fan.withSpeed driverData pwmData ram address = ram address) ∧
      (∀ address, fan.Owns address → address ∉ enableRegisters ∧
        ∀ other, other ≠ fan → ¬ other.Owns address) ∧
      (∀ ecData : EcData, ecData.devData ∈ nb05Devices →
        ecData.devData.fanctlOnereg = true →
        driverData = tuxedoNb05FanControlProbe ecData →
        fanControlAttrIsVisible driverData fan.pwmPosition = true →
        ∀ address, fan.withSpeed driverData pwmData ram address =
          if address = 0x1809 then normalisedDuty pwmData
          else ram address) ∧
      (normalisedDuty pwmData = 0 ∨
        46 ≤ (normalisedDuty pwmData).toNat ∧
          (normalisedDuty pwmData).toNat ≤ 184) ∧
      (normalisedRpm pwmData = 0 ∨
        13 ≤ (normalisedRpm pwmData).toNat ∧
          (normalisedRpm pwmData).toNat ≤ 54) ∧
      (normalisedDuty pwmData = 0 ↔ normalisedRpm pwmData = 0) ∧
      ∀ lower ≤ pwmData,
        normalisedDuty lower ≤ normalisedDuty pwmData ∧
          normalisedRpm lower ≤ normalisedRpm pwmData := by
  refine
    ⟨run_pwmStore fan driverData parses size ram,
      fun address notOwned =>
        withSpeed_of_not_owns notOwned driverData pwmData ram,
      fun address owned => owned_apart owned, ?_,
      normalisedDuty_range pwmData, normalisedRpm_range pwmData,
      normalised_eq_zero_iff pwmData, fun lower le =>
        ⟨normalisedDuty_mono le, normalisedRpm_mono le⟩⟩
  rintro ecData listed onereg rfl visible address
  exact withSpeed_of_onereg listed onereg visible pwmData ram address

theorem fanTables_consistent_half :
    let ecData : EcData := ⟨9, 8, dataPulse⟩
    let driverData := tuxedoNb05FanControlProbe ecData
    (fan1PwmStore driverData "128\n" 4).run ramEc (fun _ => 0) =
      (4, Fan.fan1.withSpeed driverData 128 fun _ => 0) :=
  (fanTables_consistent .fan1 (tuxedoNb05FanControlProbe ⟨9, 8, dataPulse⟩)
    (show kstrtou8 "128\n" 0 = .ok 128 by decide) 4 _).1

end TuxedoDrivers.Nb05
