import TuxedoDrivers.Interaction.Requests
import TuxedoDrivers.Interaction.Results
import TuxedoDrivers.Nb05.FanControl

/-!
# Firmware versions and tables of revolutions

From version 9.10 on the firmware needs no table of revolutions.  The probe of
the fan control asks for a major version of at least 9 and a minor version of
at least 10, each by itself, so the first minor versions of a later major
version are taken for old ones.
-/

namespace TuxedoDrivers.Nb05

open Interaction

/-! ## Versions -/

/-- The order of versions of a major and a minor number. -/
def VersionBefore (version other : U8 × U8) : Prop :=
  version.1.toNat < other.1.toNat ∨
    version.1 = other.1 ∧ version.2.toNat < other.2.toNat

instance (version other : U8 × U8) :
    Decidable (VersionBefore version other) :=
  inferInstanceAs (Decidable (_ ∨ _))

/-- The numbers at which comparing each by itself is the order. -/
def ComparesByNumber (version : U8 × U8) : Prop :=
  version.1.toNat ≤ 9 ∨ 10 ≤ version.2.toNat

theorem versionBefore_iff (version : U8 × U8) :
    VersionBefore version (9, 10) ↔
      version.1.toNat < 9 ∨
        version.1.toNat = 9 ∧ version.2.toNat < 10 := by
  have major : version.1 = 9 ↔ version.1.toNat = 9 :=
    BitVec.toNat_inj.symm
  rw [VersionBefore, major]
  rfl

theorem writeRpm_probe {ecData : EcData}
    (ranges : ecData.devData.fanctlOnereg = false) :
    (tuxedoNb05FanControlProbe ecData).writeRpm = true ↔
      ecData.verMajor.toNat < 9 ∨ ecData.verMinor.toNat < 10 := by
  simp only [tuxedoNb05FanControlProbe, ranges, Bool.false_eq_true,
    if_false, Bool.not_eq_true', Bool.and_eq_false_iff,
    decide_eq_false_iff_not, Nat.not_le]

/-! ## Tables that a store writes -/

/-- The registers of the revolutions of a fan. -/
def Fan.RpmRegister (fan : Fan) (address : U16) : Prop :=
  fan.rpmTable ≤ address.toNat ∧ address.toNat ≤ fan.rpmTable + 8

def WritesRpmTable (fan : Fan) (requests : List EcRequest) : Prop :=
  ∀ address, fan.RpmRegister address →
    ∃ data, .writeEcRam address data ∈ requests

def LeavesRpmTables (requests : List EcRequest) : Prop :=
  ∀ (fan : Fan) address data, fan.RpmRegister address →
    .writeEcRam address data ∉ requests

theorem not_leaves_of_writes {fan : Fan} {requests : List EcRequest}
    (writes : WritesRpmTable fan requests) :
    ¬ LeavesRpmTables requests := by
  intro leaves
  have fits : fan.rpmTable < 2 ^ 16 := by
    cases fan <;> decide
  have register : fan.RpmRegister (BitVec.ofNat 16 fan.rpmTable) := by
    rw [Fan.RpmRegister, BitVec.toNat_ofNat, Nat.mod_eq_of_lt fits]
    omega
  obtain ⟨data, written⟩ := writes _ register
  exact leaves fan _ data register written

/-- No register of revolutions is written. -/
def LeavesRpm : EcRequest → Prop
  | .readEcRam _ => True
  | .writeEcRam address _ => ∀ fan : Fan, ¬ fan.RpmRegister address

theorem leavesRpmTables_of_asks {σ α : Type} {program : Ec α}
    (asks : program.Asks LeavesRpm)
    (environment : Environment ecSignature σ) (state : σ) :
    LeavesRpmTables (program.requests environment state) := by
  intro fan address data register written
  exact asks.of_mem_requests written fan register

theorem not_rpmRegister {address : U16}
    (outside : (address.toNat < 0x250 ∨ 0x258 < address.toNat) ∧
      (address.toNat < 0x2d0 ∨ 0x2d8 < address.toNat)) (fan : Fan) :
    ¬ fan.RpmRegister address := by
  cases fan with
  | fan1 =>
      intro register
      have bounds : 0x2d0 ≤ address.toNat ∧ address.toNat ≤ 0x2d8 := register
      omega
  | fan2 =>
      intro register
      have bounds : 0x250 ≤ address.toNat ∧ address.toNat ≤ 0x258 := register
      omega

/-- A table of duties has no register of revolutions. -/
theorem asks_writeFanTable {first : Nat}
    (isDutyTable : first = 0x241 ∨ first = 0x2c1)
    (max hightemp : Nat) (data : U8) :
    (writeFanTable max hightemp first (first + 6)
      (BitVec.ofNat 16 (first + 7)) (BitVec.ofNat 16 (first + 8)) data).Asks
      LeavesRpm := by
  have outside : ∀ reg, first ≤ reg → reg ≤ first + 8 →
      ∀ written, LeavesRpm (.writeEcRam (BitVec.ofNat 16 reg) written) := by
    intro reg lower upper written
    apply not_rpmRegister
    rw [BitVec.toNat_ofNat, Nat.mod_eq_of_lt (by omega)]
    omega
  apply Program.Asks.ite
  · intro _
    exact Program.asks_pure _
  · intro _
    apply Program.Asks.bind
    · apply Program.Asks.forM
      intro reg member
      have bounds := List.mem_range'_1.mp member
      exact ⟨outside reg (by omega) (by omega) _, fun _ => trivial⟩
    · intro _
      exact
        ⟨outside _ (by omega) (by omega) _, fun _ =>
          ⟨outside _ (by omega) (by omega) _, fun _ => trivial⟩⟩

theorem asks_writeFan1DutyOnereg (dutyData : U8) :
    (writeFan1DutyOnereg dutyData).Asks LeavesRpm := by
  apply Program.Asks.ite
  · intro _
    exact Program.asks_pure _
  · intro _
    exact ⟨not_rpmRegister (by decide), fun _ => trivial⟩

/-- Without revolutions a store only writes the duty. -/
theorem asks_fanPwmStore {writeDuty : U8 → Ec Int}
    (duty : ∀ data, (writeDuty data).Asks LeavesRpm)
    (writeRevolutions : U8 → Ec Int) (buffer : String) (size : Nat) :
    (fanPwmStore writeDuty writeRevolutions false buffer size).Asks
      LeavesRpm := by
  unfold fanPwmStore
  split
  · exact Program.asks_pure _
  · apply Program.Asks.bind (duty _)
    intro err
    apply Program.Asks.ite
    · intro _
      exact Program.asks_pure _
    · intro _
      exact Program.asks_pure _

theorem asks_pwmStore (fan : Fan) {driverData : DriverData}
    (unneeded : driverData.writeRpm = false) (buffer : String)
    (size : Nat) :
    (fan.pwmStore driverData buffer size).Asks LeavesRpm := by
  cases fan with
  | fan1 =>
      rw [Fan.pwmStore, fan1PwmStore, unneeded]
      apply asks_fanPwmStore
      intro data
      split
      · exact asks_writeFan1DutyOnereg data
      · exact asks_writeFanTable (Or.inr rfl) _ _ data
  | fan2 =>
      rw [Fan.pwmStore, fan2PwmStore, unneeded]
      apply asks_fanPwmStore
      exact asks_writeFanTable (Or.inl rfl) _ _

/-! ## Accepted values -/

theorem gives_writeFanTable {max hightemp first last : Nat}
    {high higher : U16} {data : U8} (accepted : data.toNat ≤ max) :
    (writeFanTable max hightemp first last high higher data).Gives
      (fun _ => True) (· = 0) := by
  rw [writeFanTable, if_neg (Nat.not_lt.mpr accepted)]
  apply Program.Gives.after (Program.asks_any _)
  intro _
  apply Program.Gives.after (Program.asks_any _)
  intro _
  apply Program.Gives.after (Program.asks_any _)
  intro _
  exact Program.gives_pure rfl

theorem gives_writeFan1DutyOnereg {dutyData : U8}
    (accepted : dutyData.toNat ≤ fanSetDutyMax) :
    (writeFan1DutyOnereg dutyData).Gives (fun _ => True) (· = 0) := by
  rw [writeFan1DutyOnereg, if_neg (Nat.not_lt.mpr accepted)]
  apply Program.Gives.after (Program.asks_any _)
  intro _
  exact Program.gives_pure rfl

section Stores

variable {σ : Type} (environment : Environment ecSignature σ) (state : σ)

theorem requests_writeRegisters (first last : Nat) (data : U8) :
    (writeRegisters first last data).requests environment state =
      (List.range' first (last + 1 - first)).map fun reg =>
        .writeEcRam (BitVec.ofNat 16 reg) data := by
  have round : ∀ (reg : Nat) (reached : σ),
      (nb05WriteEcRam (BitVec.ofNat 16 reg) data).requests environment
          reached = [.writeEcRam (BitVec.ofNat 16 reg) data] :=
    fun _ _ => rfl
  rw [writeRegisters, Program.requests_forM _ _ round,
    ← List.map_eq_flatMap]

/-- All nine registers of a table are written. -/
theorem writes_writeFanTable {max first : Nat} (hightemp : Nat)
    {data : U8} (accepted : data.toNat ≤ max) {address : U16}
    (within : first ≤ address.toNat ∧ address.toNat ≤ first + 8) :
    ∃ written, .writeEcRam address written ∈
      (writeFanTable max hightemp first (first + 6)
        (BitVec.ofNat 16 (first + 7)) (BitVec.ofNat 16 (first + 8))
        data).requests environment state := by
  have sameAddress : address = BitVec.ofNat 16 address.toNat := by
    rw [BitVec.ofNat_toNat, BitVec.setWidth_eq]
  have notAbove : ¬ data.toNat > max := Nat.not_lt.mpr accepted
  simp only [writeFanTable, if_neg notAbove, Program.requests_bind,
    requests_writeRegisters]
  by_cases low : address.toNat ≤ first + 6
  · refine ⟨fanOffOrOn max data, List.mem_append_left _ ?_⟩
    apply List.mem_map.mpr
    refine ⟨address.toNat, List.mem_range'_1.mpr (by omega), ?_⟩
    rw [← sameAddress]
  · refine ⟨forHightemp hightemp (fanOffOrOn max data), ?_⟩
    have high : address.toNat = first + 7 ∨ address.toNat = first + 8 := by
      omega
    apply List.mem_append_right
    rcases high with high | higher
    · rw [sameAddress, high]
      exact List.mem_cons_self
    · rw [sameAddress, higher]
      exact List.mem_cons_of_mem _ List.mem_cons_self

/-- With revolutions a store that gets to them writes the table. -/
theorem writes_fanPwmStore {fan : Fan}
    {writeDuty writeRevolutions : U8 → Ec Int}
    (duty : ∀ data : U8, data.toNat ≤ fanSetDutyMax →
      (writeDuty data).Gives (fun _ => True) (· = 0))
    (rpm : ∀ (data : U8) reached, data.toNat ≤ fanSetRpmMax →
      WritesRpmTable fan
        ((writeRevolutions data).requests environment reached))
    {buffer : String} {pwmData : U8}
    (parses : kstrtou8 buffer 0 = .ok pwmData) (size : Nat) :
    WritesRpmTable fan
      ((fanPwmStore writeDuty writeRevolutions true buffer size).requests
        environment state) := by
  have dutyBound : (pwmToDuty pwmData).toNat ≤ fanSetDutyMax := by
    rw [toNat_pwmToDuty]
    exact scaled_le pwmData fanSetDutyMax
  have rpmBound : (pwmToRpm pwmData).toNat ≤ fanSetRpmMax := by
    rw [toNat_pwmToRpm]
    exact scaled_le pwmData fanSetRpmMax
  have dutyResult := (duty _ dutyBound).run environment state
  intro address register
  obtain ⟨data, written⟩ := rpm _ _ rpmBound address register
  refine ⟨data, ?_⟩
  simp only [fanPwmStore, parses, Program.requests_bind, dutyResult, ne_eq,
    not_true_eq_false, if_false, if_true]
  apply List.mem_append_right
  exact List.mem_append_left _ written

theorem writes_pwmStore (fan : Fan) {driverData : DriverData}
    (needed : driverData.writeRpm = true) {buffer : String} {pwmData : U8}
    (parses : kstrtou8 buffer 0 = .ok pwmData) (size : Nat) :
    WritesRpmTable fan
      ((fan.pwmStore driverData buffer size).requests environment state) := by
  cases fan with
  | fan1 =>
      rw [Fan.pwmStore, fan1PwmStore, needed]
      apply writes_fanPwmStore _ _ _ _ parses
      · intro data accepted
        split
        · exact gives_writeFan1DutyOnereg accepted
        · exact gives_writeFanTable accepted
      · intro data reached accepted address register
        exact writes_writeFanTable _ _ _ accepted register
  | fan2 =>
      rw [Fan.pwmStore, fan2PwmStore, needed]
      apply writes_fanPwmStore _ _ _ _ parses
      · intro data accepted
        exact gives_writeFanTable accepted
      · intro data reached accepted address register
        exact writes_writeFanTable _ _ _ accepted register

end Stores

/-! ## Probe and stores -/

/-- After a probe that reads some version, the stores on the machines with
tables write the revolutions exactly if the version is before 9.10. -/
def RpmTablesFollowVersion {σ : Type}
    (environment : Environment ecSignature σ) (state : σ) : Prop :=
  ∀ (devData : DeviceData) (fan : Fan) (buffer : String) (size : Nat)
    (later : σ), devData.fanctlOnereg = false →
    let version := (nb05ReadEcFwVersion.run environment state).1
    let ecData := ((tuxedoNb05EcProbe devData).run environment state).1
    let requests :=
      (fan.pwmStore (tuxedoNb05FanControlProbe ecData) buffer size).requests
        environment later
    ((∃ pwmData, kstrtou8 buffer 0 = .ok pwmData) →
        VersionBefore version (9, 10) → WritesRpmTable fan requests) ∧
      (¬ VersionBefore version (9, 10) → LeavesRpmTables requests)

theorem rpmTables_followVersion_iff {σ : Type}
    (environment : Environment ecSignature σ) (state : σ) :
    RpmTablesFollowVersion environment state ↔
      ComparesByNumber (nb05ReadEcFwVersion.run environment state).1 := by
  have needed : ∀ devData : DeviceData, devData.fanctlOnereg = false →
      ((tuxedoNb05FanControlProbe
          ((tuxedoNb05EcProbe devData).run environment state).1).writeRpm =
            true ↔
        (nb05ReadEcFwVersion.run environment state).1.1.toNat < 9 ∨
          (nb05ReadEcFwVersion.run environment state).1.2.toNat < 10) :=
    fun _ ranges => writeRpm_probe ranges
  constructor
  · intro follows
    by_contra late
    obtain ⟨major, minor⟩ := not_or.mp late
    have notBefore := (not_congr (versionBefore_iff _)).mpr
      (show ¬ ((nb05ReadEcFwVersion.run environment state).1.1.toNat < 9 ∨
        (nb05ReadEcFwVersion.run environment state).1.1.toNat = 9 ∧
          (nb05ReadEcFwVersion.run environment state).1.2.toNat < 10) by
        omega)
    have writes :=
      writes_pwmStore environment state .fan1
        ((needed dataPulse rfl).mpr (Or.inr (by omega)))
        (show kstrtou8 "0" 0 = .ok 0 by decide) 1
    have leaves :=
      (follows dataPulse .fan1 "0" 1 state rfl).2 notBefore
    exact not_leaves_of_writes writes leaves
  · intro byNumber devData fan buffer size later ranges
    constructor
    · rintro ⟨pwmData, parses⟩ before
      have numbers := (versionBefore_iff _).mp before
      apply writes_pwmStore _ _ _ _ parses
      exact (needed devData ranges).mpr (by omega)
    · intro notBefore
      have numbers := (not_congr (versionBefore_iff _)).mp notBefore
      apply leavesRpmTables_of_asks
      apply asks_pwmStore
      rw [Bool.eq_false_iff]
      intro writes
      have old := (needed devData ranges).mp writes
      unfold ComparesByNumber at byNumber
      omega

/-- The EC of a machine with this version. -/
def versionRam (major minor : U8) : Ram :=
  Function.update (Function.update (fun _ => 0) 0x0400 major) 0x0401 minor

/-- The tables that 9.10 no longer needs are written on 10.0. -/
theorem rpmTables_written_of_ten_zero :
    ¬ RpmTablesFollowVersion ramEc (versionRam 10 0) := by
  intro follows
  have leaves :=
    (follows dataPulse .fan1 "128\n" 4 (versionRam 10 0) rfl).2 (by decide)
  have writes :=
    writes_pwmStore ramEc (versionRam 10 0) .fan1
      (show (tuxedoNb05FanControlProbe ⟨10, 0, dataPulse⟩).writeRpm = true
        by decide)
      (show kstrtou8 "128\n" 0 = .ok 128 by decide) 4
  exact not_leaves_of_writes writes leaves

end TuxedoDrivers.Nb05
