import TuxedoDrivers.Interaction.Isolation
import TuxedoDrivers.Nb05.EcPorts
import TuxedoDrivers.Nb05.PwmReadBack

/-!
# The fan attributes of the NB05 machines

Each fan has one attribute for its speed and one that switches between the
driver and the firmware.  Each attribute is stored to registers of its own and
shown from one of them, so the users of one attribute see nothing of the
others, however the accesses to the ports come between each other.
-/

namespace TuxedoDrivers.Nb05

open Interaction

/-! ## Switches -/

def readFan1EnableRanges : Ec Bool := do
  let enableData ← nb05ReadEcRam 0x2c0
  return decide (enableData &&& 0x01 ≠ 0)

def readFan1EnableOnereg : Ec Bool := do
  let enableData ← nb05ReadEcRam 0x2f1
  return decide (enableData = 0xaa)

def readFan2Enable : Ec Bool := do
  let enableData ← nb05ReadEcRam 0x240
  return decide (enableData &&& 0x01 ≠ 0)

def writeFan1EnableRanges (enable : Bool) : Ec Int := do
  nb05WriteEcRam 0x2c0 (if enable = true then 1 else 0)
  return 0

def writeFan1EnableOnereg (enable : Bool) : Ec Int := do
  nb05WriteEcRam 0x2f1 (if enable = true then 0xaa else 0x00)
  return 0

def writeFan2Enable (enable : Bool) : Ec Int := do
  nb05WriteEcRam 0x240 (if enable = true then 1 else 0)
  return 0

/-- The two shows of a switch. -/
def fanPwmEnableShow (readEnable : Ec Bool) : Ec String := do
  let enableData ← readEnable
  return sysfsEmitByte (if enableData = true then 1 else 2)

/-- The two stores: 2 is the firmware, everything else the driver. -/
def fanPwmEnableStore (writeEnable : Bool → Ec Int) (buffer : String)
    (size : Nat) : Ec Int := do
  match kstrtou8 buffer 0 with
  | .error _ => return -einval
  | .ok enableHwmon =>
      let err ← writeEnable (if enableHwmon = 2 then false else true)
      if err ≠ 0 then
        return err
      else
        return size

def fan1PwmEnableShow (driverData : DriverData) : Ec String :=
  fanPwmEnableShow
    (if driverData.ecData.devData.fanctlOnereg = true then
      readFan1EnableOnereg
    else readFan1EnableRanges)

def fan1PwmEnableStore (driverData : DriverData) : String → Nat → Ec Int :=
  fanPwmEnableStore
    (if driverData.ecData.devData.fanctlOnereg = true then
      writeFan1EnableOnereg
    else writeFan1EnableRanges)

def fan2PwmEnableShow : Ec String :=
  fanPwmEnableShow readFan2Enable

def fan2PwmEnableStore : String → Nat → Ec Int :=
  fanPwmEnableStore writeFan2Enable

namespace Fan

def pwmEnableShow (driverData : DriverData) : Fan → Ec String
  | .fan1 => fan1PwmEnableShow driverData
  | .fan2 => fan2PwmEnableShow

def pwmEnableStore : Fan → DriverData → String → Nat → Ec Int
  | .fan1, driverData => fan1PwmEnableStore driverData
  | .fan2, _ => fan2PwmEnableStore

/-- The switch of a fan. -/
def enableRegister (fan : Fan) (fanctlOnereg : Bool) : U16 :=
  match fan with
  | .fan1 => if fanctlOnereg = true then 0x2f1 else 0x2c0
  | .fan2 => 0x240

/-- What the switch holds while the driver sets the speed. -/
def enableByte (fan : Fan) (fanctlOnereg : Bool) : U8 :=
  if fan = .fan1 ∧ fanctlOnereg = true then 0xaa else 1

end Fan

/-! ## Attributes and their users -/

inductive FanAttr where
  | pwm (fan : Fan)
  | pwmEnable (fan : Fan)
  deriving DecidableEq, Repr

namespace FanAttr

def display (driverData : DriverData) : FanAttr → Ec String
  | .pwm fan => fan.pwmShow driverData
  | .pwmEnable fan => fan.pwmEnableShow driverData

def store (driverData : DriverData) : FanAttr → String → Nat → Ec Int
  | .pwm fan => fan.pwmStore driverData
  | .pwmEnable fan => fan.pwmEnableStore driverData

/-- The registers of an attribute, on all machines. -/
def Owns : FanAttr → U16 → Prop
  | .pwm fan, address => fan.Owns address
  | .pwmEnable fan, address =>
      address = fan.enableRegister true ∨ address = fan.enableRegister false

/-- What is shown of a value that was stored. -/
def text : FanAttr → U8 → String
  | .pwm _, value => sysfsEmitByte (shownPwm value)
  | .pwmEnable _, value => sysfsEmitByte (if value = 2 then 2 else 1)

end FanAttr

inductive FanCall where
  | display
  | store (buffer : String) (size : Nat)
  deriving DecidableEq, Repr

/-- A text, or what a store returns. -/
inductive FanResult where
  | shown (text : String)
  | stored (result : Int)
  deriving DecidableEq, Repr

namespace FanAttr

def call (driverData : DriverData) (attr : FanAttr) :
    FanCall → Ec FanResult
  | .display => FanResult.shown <$> attr.display driverData
  | .store buffer size =>
      FanResult.stored <$> attr.store driverData buffer size

/-- One call after the other. -/
def callEach (driverData : DriverData) (attr : FanAttr) :
    List FanCall → Ec (List FanResult)
  | [] => return []
  | first :: rest => do
      let result ← attr.call driverData first
      let results ← attr.callEach driverData rest
      return result :: results

/-- The results for an attribute that is a cell: `shown` is its text. -/
def cellResults (attr : FanAttr) (shown : String) :
    List FanCall → List FanResult
  | [] => []
  | .display :: rest => .shown shown :: attr.cellResults shown rest
  | .store buffer size :: rest =>
      match kstrtou8 buffer 0 with
      | .error _ => .stored (-einval) :: attr.cellResults shown rest
      | .ok value =>
          .stored size :: attr.cellResults (attr.text value) rest

end FanAttr

/-! ## Cells -/

section Cells

variable (driverData : DriverData) (ram : Ram)

/-- The switch of a fan says that the driver sets the speed. -/
def Fan.drives (fan : Fan) (fanctlOnereg : Bool) (ram : Ram) : Bool :=
  if fan = .fan1 ∧ fanctlOnereg = true then decide (ram 0x2f1 = 0xaa)
  else decide (ram (fan.enableRegister false) &&& 0x01 ≠ 0)

theorem run_pwmEnableShow (fan : Fan) :
    (fan.pwmEnableShow driverData).run ramEc ram =
      (sysfsEmitByte
        (if fan.drives driverData.ecData.devData.fanctlOnereg ram = true
          then 1 else 2), ram) := by
  cases fan with
  | fan1 =>
      by_cases onereg : driverData.ecData.devData.fanctlOnereg = true
      · simp only [Fan.pwmEnableShow, fan1PwmEnableShow, fanPwmEnableShow,
          onereg, if_true, readFan1EnableOnereg, Program.run_bind,
          run_nb05ReadEcRam, Program.run_pure, Fan.drives, and_self]
      · simp only [Fan.pwmEnableShow, fan1PwmEnableShow, fanPwmEnableShow,
          onereg, if_false, readFan1EnableRanges, Program.run_bind,
          run_nb05ReadEcRam, Program.run_pure, Fan.drives, and_false,
          Fan.enableRegister, Bool.false_eq_true]
  | fan2 =>
      rfl

theorem run_fanPwmEnableStore {writeEnable : Bool → Ec Int}
    {register : U16} {byte : U8}
    (writes : ∀ enable ram, (writeEnable enable).run ramEc ram =
      (0, Function.update ram register (if enable = true then byte else 0)))
    {buffer : String} {value : U8} (parses : kstrtou8 buffer 0 = .ok value)
    (size : Nat) :
    (fanPwmEnableStore writeEnable buffer size).run ramEc ram =
      ((size : Int),
        Function.update ram register
          (if decide (value ≠ 2) = true then byte else 0)) := by
  have driver : (if value = 2 then false else true) = decide (value ≠ 2) := by
    by_cases firmware : value = 2 <;> simp [firmware]
  simp only [fanPwmEnableStore, parses, driver, Program.run_bind, writes,
    Program.run_pure, ne_eq, not_true_eq_false, if_false]

theorem run_pwmEnableStore (fan : Fan) {buffer : String} {value : U8}
    (parses : kstrtou8 buffer 0 = .ok value) (size : Nat) :
    (fan.pwmEnableStore driverData buffer size).run ramEc ram =
      ((size : Int),
        Function.update ram
          (fan.enableRegister driverData.ecData.devData.fanctlOnereg)
          (if decide (value ≠ 2) = true then
            fan.enableByte driverData.ecData.devData.fanctlOnereg
          else 0)) := by
  cases fan with
  | fan1 =>
      apply run_fanPwmEnableStore ram _ parses
      intro enable ram
      cases driverData.ecData.devData.fanctlOnereg <;> rfl
  | fan2 =>
      apply run_fanPwmEnableStore ram _ parses
      exact fun enable ram => rfl

/-- A switch says what was written to it. -/
theorem drives_update (fan : Fan) (fanctlOnereg driver : Bool) :
    fan.drives fanctlOnereg
        (Function.update ram (fan.enableRegister fanctlOnereg)
          (if driver = true then fan.enableByte fanctlOnereg else 0)) =
      driver := by
  cases fan <;> cases fanctlOnereg <;> cases driver <;>
    simp [Fan.drives, Fan.enableRegister, Fan.enableByte]

namespace FanAttr

variable (attr : FanAttr)

theorem run_display : ((attr.display driverData).run ramEc ram).2 = ram := by
  cases attr with
  | pwm fan =>
      rw [display, run_pwmShow]
  | pwmEnable fan =>
      rw [display, run_pwmEnableShow]

/-- A text that is no number stores nothing. -/
theorem store_of_error {buffer : String} {err : Int}
    (fails : kstrtou8 buffer 0 = .error err) (size : Nat) :
    attr.store driverData buffer size = pure (-einval) := by
  cases attr with
  | pwm fan =>
      cases fan with
      | fan1 => simp only [store, Fan.pwmStore, fan1PwmStore, fanPwmStore,
          fails]
      | fan2 => simp only [store, Fan.pwmStore, fan2PwmStore, fanPwmStore,
          fails]
  | pwmEnable fan =>
      cases fan with
      | fan1 => simp only [store, Fan.pwmEnableStore, fan1PwmEnableStore,
          fanPwmEnableStore, fails]
      | fan2 => simp only [store, Fan.pwmEnableStore, fan2PwmEnableStore,
          fanPwmEnableStore, fails]

theorem run_store {buffer : String} {value : U8}
    (parses : kstrtou8 buffer 0 = .ok value) (size : Nat) :
    ((attr.store driverData buffer size).run ramEc ram).1 = size ∧
      ((attr.display driverData).run ramEc
          ((attr.store driverData buffer size).run ramEc ram).2).1 =
        attr.text value := by
  cases attr with
  | pwm fan =>
      rw [store, run_pwmStore fan driverData parses]
      constructor
      · rfl
      · dsimp only
        rw [display, run_pwmShow, withSpeed_shownRegister]
        rfl
  | pwmEnable fan =>
      rw [store, run_pwmEnableStore driverData ram fan parses]
      constructor
      · rfl
      · dsimp only
        rw [display, run_pwmEnableShow, drives_update]
        by_cases firmware : value = 2 <;> simp [text, firmware]

/-- Alone, the calls for an attribute are those for a cell. -/
theorem run_callEach (calls : List FanCall) :
    ((attr.callEach driverData calls).run ramEc ram).1 =
      attr.cellResults ((attr.display driverData).run ramEc ram).1
        calls := by
  induction calls generalizing ram with
  | nil =>
      rfl
  | cons first rest inductionHypothesis =>
      simp only [callEach, Program.run_bind, Program.run_pure,
        inductionHypothesis]
      cases first with
      | display =>
          simp only [call, Program.run_map, run_display, cellResults]
      | store buffer size =>
          cases parsed : kstrtou8 buffer 0 with
          | error err =>
              simp only [call, Program.run_map,
                store_of_error driverData attr parsed, Program.run_pure,
                cellResults, parsed]
          | ok value =>
              obtain ⟨accepted, shown⟩ :=
                run_store driverData ram attr parsed size
              simp only [call, Program.run_map, cellResults, parsed,
                accepted, shown]

end FanAttr

end Cells

/-! ## Requests -/

/-- A write to a table: off or turning, and in the two registers for high
temperatures never below `hightemp`. -/
def TableWrite (first lowest hightemp max : Nat) (address : U16)
    (data : U8) : Prop :=
  (first ≤ address.toNat ∧ address.toNat ≤ first + 6 ∧
      (data = 0 ∨ lowest ≤ data.toNat ∧ data.toNat ≤ max)) ∨
    (first + 7 ≤ address.toNat ∧ address.toNat ≤ first + 8 ∧
      hightemp ≤ data.toNat ∧ data.toNat ≤ max)

/-- A write of a speed. -/
def Fan.SpeedWrite (fan : Fan) (driverData : DriverData) (address : U16)
    (data : U8) : Prop :=
  (if fan = .fan1 ∧ driverData.ecData.devData.fanctlOnereg = true then
      address = 0x1809 ∧
        (data = 0 ∨ 46 ≤ data.toNat ∧ data.toNat ≤ 184)
    else TableWrite fan.dutyTable 46 51 184 address data) ∨
    driverData.writeRpm = true ∧
      TableWrite fan.rpmTable 13 15 54 address data

/-- What the store of an attribute may write. -/
def FanAttr.Writes (driverData : DriverData) :
    FanAttr → U16 → U8 → Prop
  | .pwm fan, address, data => fan.SpeedWrite driverData address data
  | .pwmEnable fan, address, data =>
      address = fan.enableRegister driverData.ecData.devData.fanctlOnereg ∧
        (data = 0 ∨
          data = fan.enableByte driverData.ecData.devData.fanctlOnereg)

section Requests

variable {allowed : EcRequest → Prop}

theorem asks_nb05WriteEcRam {address : U16} {data : U8}
    (isAllowed : allowed (.writeEcRam address data)) :
    (nb05WriteEcRam address data).Asks allowed :=
  ⟨isAllowed, fun _ => trivial⟩

theorem asks_nb05ReadEcRam {address : U16}
    (isAllowed : allowed (.readEcRam address)) :
    (nb05ReadEcRam address).Asks allowed :=
  ⟨isAllowed, fun _ => trivial⟩

theorem asks_fanTable {max hightemp first : Nat}
    (fits : first + 8 < 2 ^ 16) (small : max < 256) (below : hightemp ≤ max)
    (allows : ∀ address data,
      TableWrite first (25 * max / 100) hightemp max address data →
        allowed (.writeEcRam address data)) (data : U8) :
    (writeFanTable max hightemp first (first + 6)
        (BitVec.ofNat 16 (first + 7)) (BitVec.ofNat 16 (first + 8))
        data).Asks allowed := by
  have address {reg : Nat} (inside : reg ≤ first + 8) :
      (BitVec.ofNat 16 reg).toNat = reg := by
    rw [BitVec.toNat_ofNat]
    exact Nat.mod_eq_of_lt (by omega)
  unfold writeFanTable
  apply Program.Asks.ite
  · exact fun _ => trivial
  · intro accepted
    have inRange :=
      fanOffOrOn_range small (Nat.not_lt.mp accepted)
    have offOrOn : fanOffOrOn max data = 0 ∨
        25 * max / 100 ≤ (fanOffOrOn max data).toNat ∧
          (fanOffOrOn max data).toNat ≤ max := inRange
    have hot : hightemp ≤
        (forHightemp hightemp (fanOffOrOn max data)).toNat ∧
        (forHightemp hightemp (fanOffOrOn max data)).toNat ≤ max := by
      have bounded : (fanOffOrOn max data).toNat ≤ max := by
        rcases offOrOn with off | on
        · rw [off]
          exact Nat.zero_le max
        · exact on.2
      rw [forHightemp_eq_max, toNat_ofNat_of_lt (by omega)]
      omega
    apply Program.Asks.bind
    · apply Program.Asks.forM
      intro reg member
      have bounds := List.mem_range'_1.mp member
      apply asks_nb05WriteEcRam
      apply allows
      left
      rw [address (by omega)]
      exact ⟨bounds.1, by omega, offOrOn⟩
    · intro _
      apply Program.Asks.bind
      · apply asks_nb05WriteEcRam
        apply allows
        right
        rw [address (by omega)]
        exact ⟨le_refl _, by omega, hot⟩
      · intro _
        apply Program.Asks.bind
        · apply asks_nb05WriteEcRam
          apply allows
          right
          rw [address (le_refl _)]
          exact ⟨by omega, le_refl _, hot⟩
        · exact fun _ => trivial

theorem asks_fan1Onereg
    (allows : ∀ data : U8, data = 0 ∨ 46 ≤ data.toNat ∧ data.toNat ≤ 184 →
      allowed (.writeEcRam 0x1809 data)) (data : U8) :
    (writeFan1DutyOnereg data).Asks allowed := by
  unfold writeFan1DutyOnereg
  apply Program.Asks.ite
  · exact fun _ => trivial
  · intro accepted
    have inRange :=
      fanOffOrOn_range (show fanSetDutyMax < 256 by decide)
        (Nat.not_lt.mp accepted)
    exact
      (asks_nb05WriteEcRam (allows _ inRange)).bind fun _ => trivial

theorem asks_fanSpeed {writeDuty writeRevolutions : U8 → Ec Int}
    {writeRpm : Bool}
    (duty : ∀ data, (writeDuty data).Asks allowed)
    (rpm : writeRpm = true → ∀ data, (writeRevolutions data).Asks allowed)
    (buffer : String) (size : Nat) :
    (fanPwmStore writeDuty writeRevolutions writeRpm buffer size).Asks
      allowed := by
  unfold fanPwmStore
  cases kstrtou8 buffer 0 with
  | error err =>
      trivial
  | ok pwmData =>
      apply (duty _).bind
      intro err
      apply Program.Asks.ite
      · exact fun _ => trivial
      · intro _
        apply Program.Asks.ite
        · intro wanted
          apply (rpm wanted _).bind
          intro err
          exact Program.Asks.ite (fun _ => trivial) fun _ => trivial
        · exact fun _ => trivial

theorem asks_fanPwmEnableShow {readEnable : Ec Bool}
    (asks : readEnable.Asks allowed) :
    (fanPwmEnableShow readEnable).Asks allowed :=
  asks.bind fun _ => trivial

theorem asks_fanPwmEnableStore {writeEnable : Bool → Ec Int}
    (writes : ∀ enable, (writeEnable enable).Asks allowed)
    (buffer : String) (size : Nat) :
    (fanPwmEnableStore writeEnable buffer size).Asks allowed := by
  unfold fanPwmEnableStore
  cases kstrtou8 buffer 0 with
  | error err =>
      trivial
  | ok value =>
      apply (writes _).bind
      intro err
      exact Program.Asks.ite (fun _ => trivial) fun _ => trivial

end Requests

namespace FanAttr

variable (driverData : DriverData) (attr : FanAttr)
  {allowed : EcRequest → Prop}

theorem asks_display
    (reads : ∀ address, attr.Owns address → allowed (.readEcRam address)) :
    (attr.display driverData).Asks allowed := by
  cases attr with
  | pwm fan =>
      cases fan with
      | fan1 =>
          have onereg := reads 0x1809 (Or.inr (Or.inr ⟨rfl, rfl⟩))
          have ranges := reads 0x2c1 (Or.inl (by decide))
          change (fan1PwmShow driverData).Asks _
          unfold fan1PwmShow
          dsimp only
          apply Program.Asks.ite
          · exact fun _ => (asks_nb05ReadEcRam onereg).bind fun _ => trivial
          · exact fun _ => (asks_nb05ReadEcRam ranges).bind fun _ => trivial
      | fan2 =>
          have duty := reads 0x241 (Or.inl (by decide))
          exact (asks_nb05ReadEcRam duty).bind fun _ => trivial
  | pwmEnable fan =>
      cases fan with
      | fan1 =>
          have onereg := reads 0x2f1 (Or.inl rfl)
          have ranges := reads 0x2c0 (Or.inr rfl)
          apply asks_fanPwmEnableShow
          apply Program.Asks.ite
          · exact fun _ => (asks_nb05ReadEcRam onereg).bind fun _ => trivial
          · exact fun _ => (asks_nb05ReadEcRam ranges).bind fun _ => trivial
      | fan2 =>
          have enable := reads 0x240 (Or.inl rfl)
          apply asks_fanPwmEnableShow
          exact (asks_nb05ReadEcRam enable).bind fun _ => trivial

theorem asks_pwmStore (fan : Fan)
    (writes : ∀ address data, fan.SpeedWrite driverData address data →
      allowed (.writeEcRam address data)) (buffer : String) (size : Nat) :
    (fan.pwmStore driverData buffer size).Asks allowed := by
  have table (ranges :
      ¬ (fan = .fan1 ∧ driverData.ecData.devData.fanctlOnereg = true))
      (address : U16) (data : U8)
      (inTable : TableWrite fan.dutyTable 46 51 184 address data) :
      allowed (.writeEcRam address data) := by
    apply writes
    left
    rw [if_neg ranges]
    exact inTable
  have revolutions (wanted : driverData.writeRpm = true) (address : U16)
      (data : U8) (inTable : TableWrite fan.rpmTable 13 15 54 address data) :
      allowed (.writeEcRam address data) :=
    writes address data (Or.inr ⟨wanted, inTable⟩)
  cases fan with
  | fan1 =>
      apply asks_fanSpeed
      · intro data
        by_cases onereg : driverData.ecData.devData.fanctlOnereg = true
        · rw [if_pos onereg]
          apply asks_fan1Onereg
          intro data inRange
          apply writes
          left
          rw [if_pos ⟨rfl, onereg⟩]
          exact ⟨rfl, inRange⟩
        · rw [if_neg onereg]
          apply asks_fanTable (by decide) (by decide) (by decide)
          exact table fun both => onereg both.2
      · intro wanted
        apply asks_fanTable (by decide) (by decide) (by decide)
        exact revolutions wanted
  | fan2 =>
      apply asks_fanSpeed
      · apply asks_fanTable (by decide) (by decide) (by decide)
        exact table fun both => Fan.noConfusion both.1
      · intro wanted
        apply asks_fanTable (by decide) (by decide) (by decide)
        exact revolutions wanted

theorem asks_store
    (writes : ∀ address data, attr.Writes driverData address data →
      allowed (.writeEcRam address data)) (buffer : String) (size : Nat) :
    (attr.store driverData buffer size).Asks allowed := by
  cases attr with
  | pwm fan =>
      exact asks_pwmStore driverData fan writes buffer size
  | pwmEnable fan =>
      have allows (enable : Bool) :
          allowed (.writeEcRam
            (fan.enableRegister driverData.ecData.devData.fanctlOnereg)
            (if enable = true then
              fan.enableByte driverData.ecData.devData.fanctlOnereg
            else 0)) := by
        apply writes
        cases enable with
        | true => exact ⟨rfl, Or.inr rfl⟩
        | false => exact ⟨rfl, Or.inl rfl⟩
      cases fan with
      | fan1 =>
          apply asks_fanPwmEnableStore
          intro enable
          have isAllowed := allows enable
          by_cases onereg : driverData.ecData.devData.fanctlOnereg = true
          · rw [if_pos onereg]
            rw [onereg] at isAllowed
            exact (asks_nb05WriteEcRam isAllowed).bind fun _ => trivial
          · rw [if_neg onereg]
            rw [Bool.not_eq_true] at onereg
            rw [onereg] at isAllowed
            exact (asks_nb05WriteEcRam isAllowed).bind fun _ => trivial
      | fan2 =>
          apply asks_fanPwmEnableStore
          intro enable
          exact (asks_nb05WriteEcRam (allows enable)).bind fun _ => trivial

theorem asks_call
    (reads : ∀ address, attr.Owns address → allowed (.readEcRam address))
    (writes : ∀ address data, attr.Writes driverData address data →
      allowed (.writeEcRam address data)) (call : FanCall) :
    (attr.call driverData call).Asks allowed := by
  cases call with
  | display =>
      exact (asks_display driverData attr reads).map _
  | store buffer size =>
      exact (asks_store driverData attr writes buffer size).map _

/-- What is written is owned. -/
theorem owns_of_writes {address : U16} {data : U8}
    (writes : attr.Writes driverData address data) : attr.Owns address := by
  cases attr with
  | pwm fan =>
      rcases writes with duty | ⟨-, rpm⟩
      · by_cases onereg :
            fan = .fan1 ∧ driverData.ecData.devData.fanctlOnereg = true
        · rw [if_pos onereg] at duty
          exact Or.inr (Or.inr ⟨onereg.1, duty.1⟩)
        · rw [if_neg onereg] at duty
          left
          rcases duty with low | high <;> omega
      · right
        left
        rcases rpm with low | high <;> omega
  | pwmEnable fan =>
      rcases writes with ⟨here, -⟩
      cases onereg : driverData.ecData.devData.fanctlOnereg with
      | true =>
          rw [onereg] at here
          exact Or.inl here
      | false =>
          rw [onereg] at here
          exact Or.inr here

/-- Two attributes have no register in common. -/
theorem owns_apart {attr other : FanAttr} (different : attr ≠ other)
    {address : U16} (owned : attr.Owns address) : ¬ other.Owns address := by
  have switch {fan : Fan} (owned : (pwmEnable fan).Owns address) :
      address ∈ enableRegisters := by
    rcases owned with rfl | rfl <;> cases fan <;> decide
  cases attr with
  | pwm fan =>
      cases other with
      | pwm fan' =>
          have fans : fan' ≠ fan := by
            rintro rfl
            exact different rfl
          exact (owned_apart owned).2 fan' fans
      | pwmEnable fan' =>
          intro otherOwned
          exact (owned_apart owned).1 (switch otherOwned)
  | pwmEnable fan =>
      cases other with
      | pwm fan' =>
          intro otherOwned
          exact (owned_apart otherOwned).1 (switch owned)
      | pwmEnable fan' =>
          intro otherOwned
          apply different
          rcases owned with rfl | rfl <;> cases fan <;> cases fan' <;>
            first | rfl | simp [Owns, Fan.enableRegister] at otherOwned

end FanAttr

/-! ## Isolation -/

namespace FanAttr

def OwnsRequest (attr : FanAttr) : EcRequest → Prop
  | .readEcRam address => attr.Owns address
  | .writeEcRam address _ => attr.Owns address

/-- What is in the registers of an attribute. -/
def registers (attr : FanAttr) (ram : Ram) :
    { address // attr.Owns address } → U8 :=
  fun address => ram address

theorem isolates_ramEc : Isolates ramEc OwnsRequest registers where
  answers := by
    intro attr request state view owned same
    cases request with
    | readEcRam address => exact congrFun same ⟨address, owned⟩
    | writeEcRam address data => rfl
  changes := by
    intro attr request state view owned same
    cases request with
    | readEcRam address => exact same
    | writeEcRam address data =>
        funext register
        have before := congrFun same register
        by_cases here : register.1 = address
        · simp only [registers, ramEc, here, Function.update_self]
        · simp only [registers, ramEc, Function.update_of_ne here]
          exact before
  keeps := by
    intro attr other request state owned different
    cases request with
    | readEcRam address => rfl
    | writeEcRam address data =>
        funext register
        have notWritten : register.1 ≠ address := by
          intro here
          have owns : attr.Owns address := here ▸ register.2
          exact owns_apart different owned owns
        simp only [registers, ramEc, Function.update_of_ne notWritten]

theorem asks_callEach (driverData : DriverData) (attr : FanAttr)
    (calls : List FanCall) :
    (attr.callEach driverData calls).Asks attr.OwnsRequest := by
  induction calls with
  | nil =>
      trivial
  | cons first rest inductionHypothesis =>
      apply Program.Asks.bind
      · apply asks_call
        · exact fun _ owned => owned
        · exact fun _ _ writes => owns_of_writes driverData attr writes
      · intro result
        exact inductionHypothesis.bind fun _ => trivial

end FanAttr

/-- Each fan attribute is a cell of its own, in every interleaving of the port
accesses of threads that show and store one attribute each: what a thread has
still to do, done alone, ends with the results for the cell.  A thread that is
done has them. -/
theorem fanAttributes_isolated (elsewhere : U16 → EcPorts → U8)
    (driverData : DriverData) (calls : FanAttr → List FanCall)
    (ports : EcPorts) (schedule : List (FanAttr × Unit)) (attr : FanAttr) :
    let reached :=
      (Callers.start (fun attr => attr.callEach driverData (calls attr)) ()
        ports).run byPorts (EcPorts.environment elsewhere) schedule
    (((reached.callers attr).settled (EcPorts.environment elsewhere)
            reached.device).run ramEc
          (reached.settledDevice (EcPorts.environment elsewhere)).ram).1 =
      attr.cellResults ((attr.display driverData).run ramEc ports.ram).1
        (calls attr) := by
  have steps :=
    EcPorts.settled_eq_steps elsewhere
      (fun attr => attr.callEach driverData (calls attr)) ports schedule
  have asks (attr : FanAttr) :
      (attr.callEach driverData (calls attr)).Asks attr.OwnsRequest :=
    FanAttr.asks_callEach driverData attr (calls attr)
  have alone :=
    Threads.run_isolated FanAttr.isolates_ramEc
      ⟨fun attr => attr.callEach driverData (calls attr), ports.ram⟩ asks
      ((Callers.start (fun attr => attr.callEach driverData (calls attr)) ()
          ports).order byPorts (EcPorts.environment elsewhere)
        schedule) attr
  dsimp only at steps ⊢
  rw [steps.1 attr, steps.2, alone.1]
  exact FanAttr.run_callEach driverData ports.ram attr (calls attr)

end TuxedoDrivers.Nb05
