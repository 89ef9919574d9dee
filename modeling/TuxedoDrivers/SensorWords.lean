import TuxedoDrivers.Nb04.Sensors
import TuxedoDrivers.Nb05.Sensors
import TuxedoDrivers.Uniwill.BatteryReadings

/-!
# Readings of two bytes

Three drivers report numbers of 16 bits that they put together from two bytes
next to each other, each with an order and addresses of its own.  Here all
these readings are held against the pair of bytes they should be made of.
-/

namespace TuxedoDrivers

open Interaction

/-! ## The readings -/

inductive SensorReading where
  | nb05Fan1
  | nb05Fan2
  | rawCycleCount
  | rawXif1
  | rawXif2
  | nb04Fan1Cur
  | nb04Fan2Cur
  | nb04Fan1Max
  | nb04Fan2Max
  deriving DecidableEq, Repr

/-- A number of the hardware monitoring, or the text of an attribute. -/
inductive Reported where
  | value (number : Int)
  | text (content : String)
  deriving DecidableEq, Repr

/-- The EC RAM, or the output buffer of the firmware, by address. -/
abbrev SensorContent : Type := U16 → U8

/-- The buffer of a method of the NB04 firmware. -/
def SensorContent.buffer (content : SensorContent) : List U8 :=
  List.ofFn fun index : Fin Nb04.bsOutputBufferLength =>
    content (BitVec.ofNat 16 index)

namespace SensorReading

/-- Where the high and the low byte of the reading are. -/
def bytes : SensorReading → U16 × U16
  | .nb05Fan1 => (0x298, 0x299)
  | .nb05Fan2 => (0x218, 0x219)
  | .rawCycleCount => (0x04A7, 0x04A6)
  | .rawXif1 => (0x0403, 0x0402)
  | .rawXif2 => (0x0405, 0x0404)
  | .nb04Fan1Cur => (3, 2)
  | .nb04Fan2Cur => (5, 4)
  | .nb04Fan1Max => (7, 6)
  | .nb04Fan2Max => (9, 8)

/-- How a number is reported. -/
def format (reading : SensorReading) (number : Nat) : Reported :=
  match reading with
  | .rawCycleCount | .rawXif1 | .rawXif2 => .text (sysfsEmitNumber number)
  | _ => .value number

/-- A firmware method that did not succeed has no readings. -/
def Readable (reading : SensorReading) (content : SensorContent) : Prop :=
  match reading with
  | .nb04Fan1Cur | .nb04Fan2Cur | .nb04Fan1Max | .nb04Fan2Max =>
      content 0 = 0 ∧ content 1 = 0
  | _ => True

instance (reading : SensorReading) (content : SensorContent) :
    Decidable (reading.Readable content) := by
  cases reading <;> unfold Readable <;> infer_instance

end SensorReading

/-- What the drivers keep and what their uninitialised buffers hold. -/
structure SensorContext where
  nb05Data : Nb05.SensorsData
  nb04Data : Nb04.SensorsData
  nb04Input : Vector U8 Nb04.bsInputBufferLength
  uniwillStatics : Uniwill.DriverState

namespace SensorContext

variable (context : SensorContext)

def nb05Read (content : SensorContent) (channel : Int) :
    Except Int Reported :=
  ((Nb05.tuxedoNb05HwmonRead context.nb05Data .fan .input channel).run
    Nb05.ramEc content).1.map .value

def uniwillShow (content : SensorContent)
    (shown : Uniwill.Driver (Except Int String)) : Except Int Reported :=
  (Uniwill.reliableEc.run shown
    (context.uniwillStatics, content)).1.map .text

def nb04Read (content : SensorContent) (channel : Int) :
    Except Int Reported :=
  ((Nb04.tuxedoNb04SensorsRead context.nb04Input context.nb04Data .fan
    .input channel).run (Nb04.bufferFirmware content.buffer) ()).1.map
      .value

/-- The highest speed, which the probe reads. -/
def nb04Max (channel : Int) : Nb04.Methods (Except Int Int) := do
  let probed ← Nb04.tuxedoNb04SensorsProbe context.nb04Input
  match probed with
  | .error err => return .error err
  | .ok driverData =>
      Nb04.tuxedoNb04SensorsRead context.nb04Input driverData .fan .max
        channel

def nb04ReadMax (content : SensorContent) (channel : Int) :
    Except Int Reported :=
  ((context.nb04Max channel).run
    (Nb04.bufferFirmware content.buffer) ()).1.map .value

/-- What the driver reports for a content. -/
def reported (reading : SensorReading) (content : SensorContent) :
    Except Int Reported :=
  match reading with
  | .nb05Fan1 => context.nb05Read content 0
  | .nb05Fan2 => context.nb05Read content 1
  | .rawCycleCount => context.uniwillShow content Uniwill.rawCycleCountShow
  | .rawXif1 => context.uniwillShow content Uniwill.rawXif1Show
  | .rawXif2 => context.uniwillShow content Uniwill.rawXif2Show
  | .nb04Fan1Cur => context.nb04Read content 0
  | .nb04Fan2Cur => context.nb04Read content 1
  | .nb04Fan1Max => context.nb04ReadMax content 0
  | .nb04Fan2Max => context.nb04ReadMax content 1

end SensorContext

/-! ## Bytes of the readings -/

/-- Different numbers are reported differently. -/
theorem SensorReading.format_inj (reading : SensorReading)
    {number other : Nat} :
    reading.format number = reading.format other ↔ number = other := by
  cases reading <;>
    simp only [SensorReading.format, Reported.value.injEq,
      Reported.text.injEq, Int.natCast_inj, sysfsEmitNumber_inj]

/-- The addresses of the bytes that the driver takes. -/
def SensorReading.taken : SensorReading → U16 × U16
  | .nb05Fan1 => (0x298, 0x298)
  | reading => reading.bytes

theorem SensorContent.getD_buffer (content : SensorContent) {index : Nat}
    (within : index < Nb04.bsOutputBufferLength) :
    content.buffer.getD index 0 = content (BitVec.ofNat 16 index) := by
  rw [SensorContent.buffer, List.getD_eq_getElem?_getD, List.getElem?_ofFn,
    dif_pos within]
  rfl

theorem SensorContent.length_buffer (content : SensorContent) :
    content.buffer.length = Nb04.bsOutputBufferLength :=
  List.length_ofFn

theorem SensorContent.statusSuccess_buffer (content : SensorContent) :
    Nb04.StatusSuccess content.buffer ↔ content 0 = 0 ∧ content 1 = 0 := by
  rw [Nb04.StatusSuccess, content.getD_buffer (by decide),
    content.getD_buffer (by decide)]
  rfl

namespace SensorContext

variable (context : SensorContext) (content : SensorContent)

theorem fanSettingOf_buffer :
    Nb04.fanSettingOf content.buffer =
      { fan1CurRpm := wordOfBytes (content 3) (content 2)
        fan2CurRpm := wordOfBytes (content 5) (content 4)
        fan1MaxRpm := wordOfBytes (content 7) (content 6)
        fan2MaxRpm := wordOfBytes (content 9) (content 8)
        fullFanStatus := decide (content 10 = 0x01) } := by
  simp only [Nb04.fanSettingOf]
  repeat rw [content.getD_buffer (by decide)]
  rfl

theorem run_readFanSetting_buffer :
    ((Nb04.readFanSetting context.nb04Input).run
        (Nb04.bufferFirmware content.buffer) ()).1 =
      if content 0 = 0 ∧ content 1 = 0 then
        .ok (Nb04.fanSettingOf content.buffer)
      else .error (-eio) := by
  rw [Nb04.run_readFanSetting content.length_buffer]
  exact if_congr content.statusSuccess_buffer rfl rfl

/-- The current speeds are taken from a setting. -/
theorem nb04Read_eq (channel : Fin 2) :
    context.nb04Read content channel.val =
      ((Nb04.readFanSetting context.nb04Input).run
        (Nb04.bufferFirmware content.buffer) ()).1.map fun setting =>
          .value (if channel = 0 then setting.fan1CurRpm
            else setting.fan2CurRpm).toNat := by
  have read : ∀ select : Nb04.FanSetting → U16,
      ((do
          let result ← Nb04.readFanSetting context.nb04Input
          return result.map fun setting => ((select setting).toNat : Int) :
            Nb04.Methods (Except Int Int)).run
          (Nb04.bufferFirmware content.buffer) ()).1.map Reported.value =
        ((Nb04.readFanSetting context.nb04Input).run
          (Nb04.bufferFirmware content.buffer) ()).1.map fun setting =>
            .value (select setting).toNat := by
    intro select
    rw [Program.run_bind, Program.run_pure]
    cases ((Nb04.readFanSetting context.nb04Input).run
      (Nb04.bufferFirmware content.buffer) ()).1 <;> rfl
  match channel with
  | 0 => exact read Nb04.FanSetting.fan1CurRpm
  | 1 => exact read Nb04.FanSetting.fan2CurRpm

/-- So are the highest ones. -/
theorem nb04ReadMax_eq (channel : Fin 2) :
    context.nb04ReadMax content channel.val =
      ((Nb04.readFanSetting context.nb04Input).run
        (Nb04.bufferFirmware content.buffer) ()).1.map fun setting =>
          .value (if channel = 0 then setting.fan1MaxRpm
            else setting.fan2MaxRpm).toNat := by
  simp only [nb04ReadMax, nb04Max, Nb04.tuxedoNb04SensorsProbe,
    Program.run_bind]
  cases ((Nb04.readFanSetting context.nb04Input).run
      (Nb04.bufferFirmware content.buffer) ()).1 with
  | error err => rfl
  | ok setting =>
      match channel with
      | 0 => rfl
      | 1 => rfl

/-- A reading is made of the bytes that the driver takes, wherever there is
a reading. -/
theorem reported_eq (reading : SensorReading) :
    context.reported reading content =
      if reading.Readable content then
        .ok (reading.format
          (wordOfBytes (content reading.taken.1)
            (content reading.taken.2)).toNat)
      else .error (-eio) := by
  have setting := run_readFanSetting_buffer context content
  rw [fanSettingOf_buffer] at setting
  have nb04 : ∀ select : Nb04.FanSetting → Reported,
      ((Nb04.readFanSetting context.nb04Input).run
          (Nb04.bufferFirmware content.buffer) ()).1.map select =
        if content 0 = 0 ∧ content 1 = 0 then
          .ok (select
            { fan1CurRpm := wordOfBytes (content 3) (content 2)
              fan2CurRpm := wordOfBytes (content 5) (content 4)
              fan1MaxRpm := wordOfBytes (content 7) (content 6)
              fan2MaxRpm := wordOfBytes (content 9) (content 8)
              fullFanStatus := decide (content 10 = 0x01) })
        else .error (-eio) := by
    intro select
    rw [setting]
    split <;> rfl
  cases reading with
  | nb05Fan1 => rfl
  | nb05Fan2 => rfl
  | rawCycleCount => rfl
  | rawXif1 => rfl
  | rawXif2 => rfl
  | nb04Fan1Cur =>
      exact (nb04Read_eq context content 0).trans (nb04 _)
  | nb04Fan2Cur =>
      exact (nb04Read_eq context content 1).trans (nb04 _)
  | nb04Fan1Max =>
      exact (nb04ReadMax_eq context content 0).trans (nb04 _)
  | nb04Fan2Max =>
      exact (nb04ReadMax_eq context content 1).trans (nb04 _)

/-! ## The bytes they should be made of -/

/-- Whatever is reported is the word of the two bytes of the reading. -/
def CombinesBytes (reading : SensorReading) : Prop :=
  (reading.Readable content →
      ∃ value, context.reported reading content = .ok value) ∧
    ∀ value, context.reported reading content = .ok value →
      value = reading.format
        ((content reading.bytes.1).toNat * 256 +
          (content reading.bytes.2).toNat)

/-- Two contents with a different byte are reported differently. -/
def TellsApart (reading : SensorReading) (other : SensorContent) : Prop :=
  reading.Readable content → reading.Readable other →
    content reading.bytes.1 ≠ other reading.bytes.1 ∨
        content reading.bytes.2 ≠ other reading.bytes.2 →
      context.reported reading content ≠ context.reported reading other

end SensorContext

/-- The bytes of a reading are two and next to each other. -/
def SensorReading.AdjacentBytes (reading : SensorReading) : Prop :=
  reading.bytes.1.toNat = reading.bytes.2.toNat + 1 ∨
    reading.bytes.2.toNat = reading.bytes.1.toNat + 1

/-- The two bytes that one driver takes to be the same are the same. -/
def SensorReading.SameBytes (reading : SensorReading)
    (content : SensorContent) : Prop :=
  reading = .nb05Fan1 → content 0x298 = content 0x299

theorem SensorReading.adjacentBytes (reading : SensorReading) :
    reading.AdjacentBytes := by
  cases reading <;> unfold AdjacentBytes <;> decide

section Bytes

variable (context : SensorContext) {reading : SensorReading}
  {content other : SensorContent}

theorem word_taken (same : reading.SameBytes content) :
    (wordOfBytes (content reading.taken.1)
        (content reading.taken.2)).toNat =
      (content reading.bytes.1).toNat * 256 +
        (content reading.bytes.2).toNat := by
  rw [toNat_wordOfBytes]
  cases reading with
  | nb05Fan1 =>
      have equal : content 0x298 = content 0x299 := same rfl
      simp only [SensorReading.taken, SensorReading.bytes, equal]
  | _ => rfl

theorem combinesBytes_iff :
    context.CombinesBytes content reading ↔ reading.SameBytes content := by
  have reported := context.reported_eq content reading
  by_cases readable : reading.Readable content
  · rw [if_pos readable] at reported
    constructor
    · intro combines isFan1
      have equal := combines.2 _ reported
      subst isFan1
      rw [SensorReading.format_inj, toNat_wordOfBytes] at equal
      apply BitVec.toNat_inj.mp
      change (content 0x298).toNat * 256 + (content 0x298).toNat =
        (content 0x298).toNat * 256 + (content 0x299).toNat at equal
      omega
    · intro same
      refine ⟨fun _ => ⟨_, reported⟩, fun value found => ?_⟩
      rw [reported, word_taken same] at found
      exact (Except.ok.inj found).symm
  · rw [if_neg readable] at reported
    constructor
    · intro _ isFan1
      subst isFan1
      exact absurd trivial readable
    · intro _
      refine ⟨fun isReadable => absurd isReadable readable, ?_⟩
      intro value found
      rw [reported] at found
      cases found

theorem tellsApart_of_sameBytes (same : reading.SameBytes content)
    (otherSame : reading.SameBytes other) :
    context.TellsApart content reading other := by
  intro readable otherReadable different
  rw [context.reported_eq content, context.reported_eq other,
    if_pos readable, if_pos otherReadable, word_taken same,
    word_taken otherSame]
  intro equal
  have numbers := reading.format_inj.mp (Except.ok.inj equal)
  have lowBound := (content reading.bytes.2).isLt
  have otherLowBound := (other reading.bytes.2).isLt
  rcases different with high | low
  · exact high (BitVec.toNat_inj.mp (by omega))
  · exact low (BitVec.toNat_inj.mp (by omega))

end Bytes

/-- All readings are made of their two bytes, but for the one that takes the
high byte twice: this one is where the two are the same. -/
theorem sensorWords_combineBytes_iff (context : SensorContext)
    (reading : SensorReading) (content other : SensorContent) :
    (reading.AdjacentBytes ∧
      context.CombinesBytes content reading ∧
      context.CombinesBytes other reading ∧
      context.TellsApart content reading other) ↔
        reading.SameBytes content ∧ reading.SameBytes other := by
  constructor
  · rintro ⟨-, combines, otherCombines, -⟩
    exact
      ⟨(combinesBytes_iff context).mp combines,
        (combinesBytes_iff context).mp otherCombines⟩
  · rintro ⟨same, otherSame⟩
    exact
      ⟨reading.adjacentBytes, (combinesBytes_iff context).mpr same,
        (combinesBytes_iff context).mpr otherSame,
        tellsApart_of_sameBytes context same otherSame⟩

/-- EC RAM with a speed of 3000 in the bytes of the first fan. -/
def fan1Ram (low : U8) : SensorContent :=
  Function.update (Function.update (fun _ => 0) 0x298 0x0b) 0x299 low

/-- A machine with two fans. -/
def pulseContext : SensorContext :=
  { nb05Data := { fanCpuMax := 5400, fanCpuMin := 0, numberFans := 2 }
    nb04Data :=
      { fanCpuMax := 0
        fanCpuMin := 0
        fanGpuMax := 0
        fanGpuMin := 0 }
    nb04Input := Vector.replicate 8 0
    uniwillStatics := {} }

/-- 3000 and 2816 revolutions are both reported as 2827. -/
theorem nb05Fan1_reports_high_twice :
    pulseContext.reported .nb05Fan1 (fan1Ram 0xb8) = .ok (.value 2827) ∧
      ¬ pulseContext.CombinesBytes (fan1Ram 0xb8) .nb05Fan1 ∧
      ¬ pulseContext.TellsApart (fan1Ram 0xb8) .nb05Fan1 (fan1Ram 0x00) := by
  have reported : ∀ low,
      pulseContext.reported .nb05Fan1 (fan1Ram low) = .ok (.value 2827) := by
    intro low
    have high : fan1Ram low 0x298 = 0x0b := by
      rw [fan1Ram, Function.update_of_ne (by decide), Function.update_self]
    have readable : SensorReading.nb05Fan1.Readable (fan1Ram low) := trivial
    rw [SensorContext.reported_eq, if_pos readable]
    simp only [SensorReading.taken, high]
    rfl
  refine ⟨reported 0xb8, ?_, ?_⟩
  · intro combines
    have equal := combines.2 _ (reported 0xb8)
    exact absurd equal (by decide)
  · intro tellsApart
    have different :=
      tellsApart trivial trivial (Or.inr (by decide))
    exact different ((reported 0xb8).trans (reported 0x00).symm)

end TuxedoDrivers
