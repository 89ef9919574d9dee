import TuxedoDrivers.Interaction.KeptSetting
import TuxedoDrivers.Stk8321.Accelerometer

/-!
# The sampling frequency

The driver answers reads of the sampling frequency from the index it keeps.
It keeps an index before the bandwidth is written to the chip, and keeps it
when the write fails.
-/

namespace TuxedoDrivers.Stk8321

open Interaction

/-! ## The table -/

theorem sampFreqEntry_values_inj {i j : Fin 8}
    (sameVal : (sampFreqEntry i).val = (sampFreqEntry j).val)
    (sameVal2 : (sampFreqEntry i).val2 = (sampFreqEntry j).val2) :
    i = j := by
  revert i j
  decide

theorem regBits_inj {i j : Fin 8}
    (same : (sampFreqEntry i).regBits = (sampFreqEntry j).regBits) :
    i = j := by
  revert i j
  decide

/-- A loop that keeps the index of the last match. -/
theorem foldl_lastMatch {ι : Type} (matching : ι → Prop)
    [DecidablePred matching] (items : List ι) (initial : Option ι) :
    items.foldl
        (fun found i => if matching i then some i else found) initial =
      (items.reverse.find? fun i => decide (matching i)).or initial := by
  induction items generalizing initial with
  | nil =>
      rfl
  | cons head tail inductionHypothesis =>
      rw [List.foldl_cons, inductionHypothesis, List.reverse_cons,
        List.find?_append, Option.or_assoc]
      by_cases matched : matching head <;> simp [matched]

/-- The entry that is found is the one with these values. -/
theorem matchingIndex_eq_some_iff {val val2 : Int} {i : Fin 8} :
    matchingIndex val val2 = some i ↔
      val = (sampFreqEntry i).val ∧ val2 = (sampFreqEntry i).val2 := by
  have search := foldl_lastMatch
    (fun i => val = (sampFreqEntry i).val ∧ val2 = (sampFreqEntry i).val2)
    (List.finRange 8) none
  rw [matchingIndex, search, Option.or_none]
  constructor
  · intro found
    simpa using List.find?_some found
  · rintro ⟨isVal, isVal2⟩
    cases found : (List.finRange 8).reverse.find? fun i =>
        decide (val = (sampFreqEntry i).val ∧
          val2 = (sampFreqEntry i).val2) with
    | none =>
        have member : i ∈ (List.finRange 8).reverse :=
          List.mem_reverse.mpr (List.mem_finRange i)
        have unmatched := List.find?_eq_none.mp found i member
        simp [isVal, isVal2] at unmatched
    | some j =>
        have values : val = (sampFreqEntry j).val ∧
            val2 = (sampFreqEntry j).val2 := by
          simpa using List.find?_some found
        have same : j = i :=
          sampFreqEntry_values_inj (values.1.symm.trans isVal)
            (values.2.symm.trans isVal2)
        rw [same]

/-! ## What the chip accepts -/

/-- The bits that a write stores in the bandwidth register. -/
def acceptedBandwidth : Event stkSignature → Option U8
  | ⟨.i2cSmbusWriteByteData register value, answer⟩ =>
      if register = regBwsel ∧ 0 ≤ answer then some value else none
  | _ => none

/-- The bits of the last write that succeeded. -/
def lastBandwidth (log : List (Event stkSignature)) : Option U8 :=
  (log.filterMap acceptedBandwidth).getLast?

/-- The program does not write the bandwidth. -/
def LeavesBandwidth {α : Type} (program : Stk α) : Prop :=
  Program.Asks (fun item : StkRequest =>
    ∀ value, item ≠ .i2cSmbusWriteByteData regBwsel value) program

section Bus

variable {σ : Type} (environment : Environment stkSignature σ) (bus : σ)

/-- The chip is suspended, and then its bus accepts these bits. -/
def busAccepts (bits : U8) : Bool :=
  decide (0 ≤
    (environment (.i2cSmbusWriteByteData regBwsel bits)
      (environment (.i2cSmbusWriteByteData regPowmode powmodeSuspend)
        bus).2).1)

theorem LeavesBandwidth.filterMap_trace {α : Type} {program : Stk α}
    (leaves : LeavesBandwidth program) :
    (program.trace environment bus).filterMap acceptedBandwidth = [] := by
  apply List.filterMap_eq_nil_iff.mpr
  intro event member
  have other := Program.Asks.of_mem_trace leaves member
  obtain ⟨item, answer⟩ := event
  cases item with
  | i2cSmbusWriteByteData register value =>
      apply if_neg
      rintro ⟨isBandwidth, -⟩
      exact other value (congrArg (StkRequest.i2cSmbusWriteByteData · value)
        isBandwidth)
  | _ => rfl

theorem leavesBandwidth_request (item : StkRequest)
    (other : ∀ value, item ≠ .i2cSmbusWriteByteData regBwsel value) :
    LeavesBandwidth (request item) :=
  ⟨other, fun _ => trivial⟩

theorem leavesBandwidth_setPowerMode (mode : U8) :
    LeavesBandwidth (stk8321SetPowerMode mode) :=
  leavesBandwidth_request (.i2cSmbusWriteByteData regPowmode mode)
    fun _ => nofun

theorem leavesBandwidth_readAxis (reg1 reg2 : U8) :
    LeavesBandwidth (stk8321ReadAxis reg1 reg2) := by
  have reads : ∀ register,
      LeavesBandwidth (request (.i2cSmbusReadByteData register)) :=
    fun register =>
      leavesBandwidth_request (.i2cSmbusReadByteData register) fun _ => nofun
  apply Program.Asks.bind (reads reg1)
  intro lowByte
  apply Program.Asks.ite
  · intro _
    trivial
  · intro _
    apply Program.Asks.bind (reads reg2)
    intro highByte
    apply Program.Asks.ite <;> intro _ <;> trivial

theorem leavesBandwidth_readRaw (data : Stk8321Data) (address : Nat)
    (mask : IioChanInfo) :
    LeavesBandwidth (stk8321ReadRaw data address mask) := by
  cases mask with
  | raw =>
      rcases address with _ | _ | _ | address
      · exact Program.Asks.bind (leavesBandwidth_readAxis _ _)
          fun _ => trivial
      · exact Program.Asks.bind (leavesBandwidth_readAxis _ _)
          fun _ => trivial
      · exact Program.Asks.bind (leavesBandwidth_readAxis _ _)
          fun _ => trivial
      · trivial
  | sampFreq => trivial
  | other => trivial

theorem acceptedBandwidth_of_ne {register : U8}
    (other : register ≠ regBwsel) (value : U8) (answer : Int) :
    acceptedBandwidth ⟨.i2cSmbusWriteByteData register value, answer⟩ =
      none := by
  simp only [acceptedBandwidth, other, false_and, if_false]

/-- The bits are accepted exactly if the write of the bandwidth succeeds. -/
theorem acceptedBandwidth_busAccepts (bits : U8) :
    acceptedBandwidth ⟨.i2cSmbusWriteByteData regBwsel bits,
        (environment (.i2cSmbusWriteByteData regBwsel bits)
          (environment (.i2cSmbusWriteByteData regPowmode powmodeSuspend)
            bus).2).1⟩ =
      if busAccepts environment bus bits = true then some bits
      else none := by
  simp only [acceptedBandwidth, busAccepts, true_and, decide_eq_true_eq]

/-- What a write of a matching frequency returns, and what the chip accepts
of it. -/
theorem run_stk8321WriteRaw {val val2 : Int} {matching : Fin 8}
    (found : matchingIndex val val2 = some matching) (data : Stk8321Data) :
    let program := stk8321WriteRaw data val val2 .sampFreq
    let bits := (sampFreqEntry matching).regBits
    (0 ≤ (program.run environment bus).1.1 ↔
        busAccepts environment bus bits = true) ∧
      (program.run environment bus).1.2 =
        { data with sampFreq := matching } ∧
      (program.trace environment bus).filterMap acceptedBandwidth =
        if busAccepts environment bus bits = true then [bits] else [] := by
  intro program bits
  have unfolded : program =
      stk8321SetPowerMode powmodeSuspend >>= fun _ =>
        stk8321SetBandwidth bits >>= fun ret =>
          stk8321SetPowerMode powmodeNormal >>= fun _ =>
            pure (ret, { data with sampFreq := matching }) := by
    simp only [program, stk8321WriteRaw, found]
    rfl
  rw [unfolded]
  refine ⟨decide_eq_true_iff.symm, rfl, ?_⟩
  have trace :
      (stk8321SetPowerMode powmodeSuspend >>= fun _ =>
        stk8321SetBandwidth bits >>= fun ret =>
          stk8321SetPowerMode powmodeNormal >>= fun _ =>
            pure (ret, { data with sampFreq := matching })).trace
          environment bus =
        [⟨.i2cSmbusWriteByteData regPowmode powmodeSuspend,
            (environment (.i2cSmbusWriteByteData regPowmode powmodeSuspend)
              bus).1⟩,
          ⟨.i2cSmbusWriteByteData regBwsel bits, _⟩,
          ⟨.i2cSmbusWriteByteData regPowmode powmodeNormal, _⟩] := rfl
  have powerMode : regPowmode ≠ regBwsel := by decide
  rw [trace]
  simp only [List.filterMap_cons, acceptedBandwidth_of_ne powerMode,
    acceptedBandwidth_busAccepts, List.filterMap_nil]
  cases busAccepts environment bus bits <;> rfl

end Bus

/-! ## Operations after a probe -/

/-- The driver, the bus of its chip and what was asked of it. -/
structure Sensor (σ : Type) where
  data : Stk8321Data
  bus : σ
  log : List (Event stkSignature)

inductive SensorStep where
  | writeRaw (val val2 : Int) (mask : IioChanInfo)
  | readRaw (address : Nat) (mask : IioChanInfo)
  | suspend
  | resume
  deriving DecidableEq, Repr

/-- The data that the driver has after an operation. -/
def SensorStep.program (data : Stk8321Data) : SensorStep → Stk Stk8321Data
  | .writeRaw val val2 mask =>
      Prod.snd <$> stk8321WriteRaw data val val2 mask
  | .readRaw address mask =>
      (fun _ => data) <$> stk8321ReadRaw data address mask
  | .suspend => (fun _ => data) <$> stk8321Suspend
  | .resume => (fun _ => data) <$> stk8321Resume

/-- The bits of the index that is kept, and those accepted last. -/
def Sensor.setting {σ : Type} (sensor : Sensor σ) : Setting U8 :=
  { kept := (sampFreqEntry sensor.data.sampFreq).regBits
    accepted := lastBandwidth sensor.log }

section Operations

variable {σ : Type} (environment : Environment stkSignature σ)

def sensorStep (step : SensorStep) (sensor : Sensor σ) : Sensor σ :=
  let program := step.program sensor.data
  { data := (program.run environment sensor.bus).1
    bus := (program.run environment sensor.bus).2
    log := sensor.log ++ program.trace environment sensor.bus }

/-- The bits that a step writes to the bandwidth register, and whether they
are accepted. -/
def bandwidthAttempt : SensorStep → Sensor σ → Attempt U8
  | .writeRaw val val2 .sampFreq, sensor =>
      (matchingIndex val val2).map fun matching =>
        let bits := (sampFreqEntry matching).regBits
        (bits, busAccepts environment sensor.bus bits)
  | _, _ => none

/-- A step that leaves the data and the bandwidth alone. -/
theorem setting_sensorStep_of_leaves {step : SensorStep} {sensor : Sensor σ}
    {α : Type} {program : Stk α}
    (keeps : step.program sensor.data = (fun _ => sensor.data) <$> program)
    (leaves : LeavesBandwidth program) :
    (sensorStep environment step sensor).setting = sensor.setting := by
  have silent := leaves.filterMap_trace environment sensor.bus
  rw [Sensor.setting, sensorStep, keeps]
  simp only [Program.run_map, Program.trace_map, lastBandwidth,
    List.filterMap_append, silent, List.append_nil]
  rfl

theorem setting_of_refused {val val2 : Int} {mask : IioChanInfo}
    {sensor : Sensor σ}
    (refused : stk8321WriteRaw sensor.data val val2 mask =
      pure (-einval, sensor.data)) :
    (sensorStep environment (.writeRaw val val2 mask) sensor).setting =
      sensor.setting := by
  have keeps :
      (SensorStep.writeRaw val val2 mask).program sensor.data =
        (fun _ => sensor.data) <$> (pure () : Stk Unit) := by
    rw [SensorStep.program, refused]
    rfl
  exact setting_sensorStep_of_leaves environment keeps trivial

/-- A write keeps its index before the chip accepts the bits. -/
theorem setting_sensorStep (step : SensorStep) (sensor : Sensor σ) :
    (sensorStep environment step sensor).setting =
      sensor.setting.keepFirst
        (bandwidthAttempt environment step sensor) := by
  cases step with
  | writeRaw val val2 mask =>
      cases mask with
      | raw => exact setting_of_refused environment rfl
      | other => exact setting_of_refused environment rfl
      | sampFreq =>
          rw [bandwidthAttempt]
          cases found : matchingIndex val val2 with
          | none =>
              apply setting_of_refused
              simp only [stk8321WriteRaw, found]
          | some matching =>
              obtain ⟨-, kept, accepted⟩ :=
                run_stk8321WriteRaw environment sensor.bus found sensor.data
              rw [Sensor.setting, sensorStep, SensorStep.program]
              simp only [Program.run_map, Program.trace_map, lastBandwidth,
                List.filterMap_append, kept, accepted, Option.map_some]
              cases busAccepts environment sensor.bus
                  (sampFreqEntry matching).regBits with
              | true =>
                  simp only [if_true, List.getLast?_concat]
                  rfl
              | false =>
                  simp only [Bool.false_eq_true, if_false, List.append_nil]
                  rfl
  | readRaw address mask =>
      exact setting_sensorStep_of_leaves environment rfl
        (leavesBandwidth_readRaw sensor.data address mask)
  | suspend =>
      exact setting_sensorStep_of_leaves environment rfl
        (Program.Asks.bind (leavesBandwidth_setPowerMode _)
          fun _ => trivial)
  | resume =>
      exact setting_sensorStep_of_leaves environment rfl
        (Program.Asks.bind (leavesBandwidth_setPowerMode _)
          fun _ => trivial)

/-! ## The frequency that is read -/

/-- The result of `stk8321_read_raw` for the sampling frequency. -/
def readFrequency (sensor : Sensor σ) (address : Nat) :
    Except Int IioValue :=
  ((stk8321ReadRaw sensor.data address .sampFreq).run environment
    sensor.bus).1

/-- Every read returns the entry whose bits were accepted last. -/
def ReportsProgrammed (sensor : Sensor σ) : Prop :=
  ∃ entry : Fin 8,
    lastBandwidth sensor.log = some (sampFreqEntry entry).regBits ∧
      ∀ address, readFrequency environment sensor address =
        .ok (.intPlusMicro (sampFreqEntry entry).val
          (sampFreqEntry entry).val2)

theorem readFrequency_eq (sensor : Sensor σ) (address : Nat) :
    readFrequency environment sensor address =
      .ok (.intPlusMicro (sampFreqEntry sensor.data.sampFreq).val
        (sampFreqEntry sensor.data.sampFreq).val2) :=
  rfl

theorem reportsProgrammed_iff (sensor : Sensor σ) :
    ReportsProgrammed environment sensor ↔ sensor.setting.InForce := by
  constructor
  · rintro ⟨entry, accepted, reads⟩
    have read := reads 0
    rw [readFrequency_eq, Except.ok.injEq, IioValue.intPlusMicro.injEq]
      at read
    have same := sampFreqEntry_values_inj read.1 read.2
    rw [Setting.InForce, Sensor.setting, same]
    exact accepted
  · intro inForce
    exact
      ⟨sensor.data.sampFreq, inForce, readFrequency_eq environment sensor⟩

/-- A write that returns an error. -/
def WriteFails : SensorStep → Sensor σ → Prop
  | .writeRaw val val2 mask, sensor =>
      ((stk8321WriteRaw sensor.data val val2 mask).run environment
        sensor.bus).1.1 < 0
  | _, _ => False

/-- A failed write leaves the frequency that is read as it is. -/
def FailureKeepsFrequency (step : SensorStep) (sensor : Sensor σ) : Prop :=
  WriteFails environment step sensor →
    ∀ address,
      readFrequency environment (sensorStep environment step sensor)
          address =
        readFrequency environment sensor address

/-- The bus accepts the bits of a frequency of the table, or this frequency
is the one that is kept. -/
def AcceptedOrKept : SensorStep → Sensor σ → Prop
  | .writeRaw val val2 .sampFreq, sensor =>
      ∀ entry : Fin 8,
        val = (sampFreqEntry entry).val →
          val2 = (sampFreqEntry entry).val2 →
            busAccepts environment sensor.bus
                (sampFreqEntry entry).regBits = true ∨
              entry = sensor.data.sampFreq
  | _, _ => True

theorem acceptedOrKept_iff (step : SensorStep) (sensor : Sensor σ) :
    AcceptedOrKept environment step sensor ↔
      Setting.RefusesOnlyKept (bandwidthAttempt environment step sensor)
        sensor.setting := by
  unfold AcceptedOrKept bandwidthAttempt
  split
  case h_2 =>
      exact iff_of_true trivial fun _ none => nomatch none
  case h_1 val val2 =>
      constructor
      · intro accepted bits refused
        obtain ⟨matching, found, same⟩ := Option.map_eq_some_iff.mp refused
        have isBits : (sampFreqEntry matching).regBits = bits :=
          congrArg Prod.fst same
        have refuses : busAccepts environment sensor.bus
            (sampFreqEntry matching).regBits = false :=
          congrArg Prod.snd same
        obtain ⟨isVal, isVal2⟩ := matchingIndex_eq_some_iff.mp found
        rcases accepted matching isVal isVal2 with accepts | kept
        · rw [refuses] at accepts
          exact absurd accepts Bool.false_ne_true
        · rw [← isBits, kept]
          rfl
      · intro refuses entry isVal isVal2
        have found := matchingIndex_eq_some_iff.mpr ⟨isVal, isVal2⟩
        cases accepts : busAccepts environment sensor.bus
            (sampFreqEntry entry).regBits with
        | true => exact Or.inl rfl
        | false =>
            apply Or.inr
            apply regBits_inj
            apply refuses
            rw [found, Option.map_some]
            exact congrArg (fun answer => some (_, answer)) accepts

/-- A write that returns an error had no bits accepted. -/
theorem bandwidthAttempt_of_error {step : SensorStep} {sensor : Sensor σ}
    (failed : WriteFails environment step sensor) (bits : U8) :
    bandwidthAttempt environment step sensor ≠ some (bits, true) := by
  unfold bandwidthAttempt
  split
  case h_2 => nofun
  case h_1 val val2 =>
      intro attempted
      obtain ⟨matching, found, same⟩ := Option.map_eq_some_iff.mp attempted
      have accepts : busAccepts environment sensor.bus
          (sampFreqEntry matching).regBits = true :=
        congrArg Prod.snd same
      have succeeds :=
        (run_stk8321WriteRaw environment sensor.bus found
          sensor.data).1.mpr accepts
      have fails : ((stk8321WriteRaw sensor.data val val2 .sampFreq).run
          environment sensor.bus).1.1 < 0 := failed
      omega

/-! ## After a probe -/

/-- Every register write in a trace has succeeded. -/
def WritesSucceed (trace : List (Event stkSignature)) : Prop :=
  ∀ register value answer,
    ⟨.i2cSmbusWriteByteData register value, answer⟩ ∈ trace → 0 ≤ answer

theorem leavesBandwidth_applyAcpiOrientation (methodName : String) :
    LeavesBandwidth (stk8321ApplyAcpiOrientation methodName) := by
  apply Program.Asks.bind
    (leavesBandwidth_request .acpiCompanion fun _ => nofun)
  intro adev
  apply Program.Asks.ite
  · intro _
    trivial
  · intro _
    apply Program.Asks.bind
      (leavesBandwidth_request (.acpiHasMethod methodName) fun _ => nofun)
    intro hasMethod
    apply Program.Asks.ite
    · intro _
      trivial
    · intro _
      apply Program.Asks.bind
        (leavesBandwidth_request (.acpiEvaluateObject methodName)
          fun _ => nofun)
      intro status
      split
      · apply Program.Asks.ite <;> intro _ <;> trivial
      · trivial

theorem leavesBandwidth_applyOrientation (devName : String) :
    LeavesBandwidth (stk8321ApplyOrientation devName) := by
  have rest : ∀ applied : Int × MatrixWrites, LeavesBandwidth
      (if applied.1 ≠ 0 then
        request .iioReadMountMatrix >>= fun read =>
          pure (read.1, applied.2 ++ read.2)
      else pure applied) := by
    intro applied
    apply Program.Asks.ite
    · intro _
      exact Program.Asks.bind
        (leavesBandwidth_request .iioReadMountMatrix fun _ => nofun)
        fun _ => trivial
    · intro _
      trivial
  apply Program.Asks.ite
  · intro _
    exact Program.Asks.bind (leavesBandwidth_applyAcpiOrientation "GETO")
      rest
  · intro _
    exact rest (1, [])

theorem leavesBandwidth_registerDevice (id : Bool) :
    LeavesBandwidth (registerDevice id) := by
  have register : LeavesBandwidth (request .devmIioDeviceRegister) :=
    leavesBandwidth_request _ fun _ => nofun
  apply Program.Asks.ite
  · intro _
    exact register
  · intro _
    apply Program.Asks.bind
      (leavesBandwidth_request .acpiCompanion fun _ => nofun)
    intro companion
    apply Program.Asks.ite
    · intro _
      exact Program.Asks.bind
        (leavesBandwidth_request .i2cAcpiNewDevice fun _ => nofun)
        fun _ => register
    · intro _
      exact register

/-- The setup of the sensor writes the bits of its index. -/
theorem filterMap_trace_setupSensor (index : Fin 8) (bus : σ)
    (succeed : WritesSucceed ((setupSensor index).trace environment bus)) :
    ((setupSensor index).trace environment bus).filterMap
        acceptedBandwidth =
      [(sampFreqEntry index).regBits] := by
  have trace : (setupSensor index).trace environment bus =
      [⟨.i2cSmbusWriteByteData regPowmode powmodeSuspend, _⟩,
        ⟨.i2cSmbusWriteByteData regRangesel rangesel2g, _⟩,
        ⟨.i2cSmbusWriteByteData regBwsel (sampFreqEntry index).regBits, _⟩,
        ⟨.i2cSmbusWriteByteData regDatasetup 0, _⟩,
        ⟨.i2cSmbusWriteByteData regPowmode powmodeNormal, _⟩] := rfl
  have powerMode : regPowmode ≠ regBwsel := by decide
  have range : regRangesel ≠ regBwsel := by decide
  have dataSetup : regDatasetup ≠ regBwsel := by decide
  rw [trace] at succeed ⊢
  have accepted := succeed regBwsel _ _
    (List.mem_cons_of_mem _ (List.mem_cons_of_mem _ List.mem_cons_self))
  simp only [List.filterMap_cons, acceptedBandwidth_of_ne powerMode,
    acceptedBandwidth_of_ne range, acceptedBandwidth_of_ne dataSetup,
    List.filterMap_nil]
  simp only [acceptedBandwidth, accepted, and_self, if_true]

/-- A probe that succeeds keeps the first entry, and besides the setup of the
sensor nothing in it writes the bandwidth. -/
theorem trace_of_probed {devName : String} {id : Bool} {bus : σ}
    {data : Stk8321Data}
    (probed : ((stk8321Probe devName id).run environment bus).1 =
      (0, some data)) :
    data.sampFreq = firstSampFreq ∧
      ∃ busThen,
        (∀ event ∈ (setupSensor firstSampFreq).trace environment busThen,
          event ∈ (stk8321Probe devName id).trace environment bus) ∧
        ((stk8321Probe devName id).trace environment bus).filterMap
            acceptedBandwidth =
          ((setupSensor firstSampFreq).trace environment busThen).filterMap
            acceptedBandwidth := by
  have alloc : LeavesBandwidth (request .devmIioDeviceAlloc) :=
    leavesBandwidth_request .devmIioDeviceAlloc fun _ => nofun
  have reset : LeavesBandwidth
      (request (.i2cSmbusWriteByteData regSwrst 0x00)) :=
    leavesBandwidth_request (.i2cSmbusWriteByteData regSwrst 0x00)
      fun _ => nofun
  unfold stk8321Probe at probed ⊢
  rw [Program.run_bind] at probed
  rw [Program.trace_bind]
  split at probed
  case isTrue => exact nomatch congrArg Prod.snd probed
  case isFalse allocated =>
      rw [if_neg allocated, Program.trace_bind]
      rw [Program.run_bind] at probed
      split at probed
      case isTrue => exact nomatch congrArg Prod.snd probed
      case isFalse present =>
          rw [if_neg present, Program.trace_bind, Program.trace_bind]
          rw [Program.run_bind, Program.run_bind] at probed
          split at probed
          case isTrue => exact nomatch congrArg Prod.snd probed
          case isFalse oriented =>
              rw [if_neg oriented, Program.trace_bind, Program.trace_pure,
                List.append_nil]
              rw [Program.run_bind, Program.run_pure] at probed
              have kept := Option.some.inj (congrArg Prod.snd probed)
              have first : data.sampFreq = firstSampFreq := by
                rw [← kept]
              let busThen :=
                ((request (.i2cSmbusWriteByteData regSwrst 0x00)).run
                  environment
                  ((request .devmIioDeviceAlloc).run environment bus).2).2
              refine ⟨first, busThen, ?_, ?_⟩
              · intro event member
                exact List.mem_append_right _
                  (List.mem_append_right _ (List.mem_append_left _ member))
              · simp only [List.filterMap_append, alloc.filterMap_trace,
                  reset.filterMap_trace,
                  (leavesBandwidth_applyOrientation
                    devName).filterMap_trace,
                  (leavesBandwidth_registerDevice id).filterMap_trace,
                  List.nil_append, List.append_nil]
                rfl

/-- After a probe that succeeds on a working bus the first entry of the table
is kept and was accepted. -/
theorem inForce_of_probed {devName : String} {id : Bool} {bus : σ}
    {data : Stk8321Data}
    (probed : ((stk8321Probe devName id).run environment bus).1 =
      (0, some data))
    (succeed : WritesSucceed
      ((stk8321Probe devName id).trace environment bus)) :
    lastBandwidth ((stk8321Probe devName id).trace environment bus) =
      some (sampFreqEntry data.sampFreq).regBits := by
  obtain ⟨first, busThen, within, same⟩ :=
    trace_of_probed environment probed
  have setupSucceeds :
      WritesSucceed
        ((setupSensor firstSampFreq).trace environment busThen) := by
    intro register value answer member
    exact succeed register value answer (within _ member)
  rw [lastBandwidth, same,
    filterMap_trace_setupSensor environment firstSampFreq busThen
      setupSucceeds, first]
  rfl

/-- After a probe on a working bus the entry that was programmed last is
read, and no failed write changes what is read, exactly if the bus accepts
every frequency of the table but those that are kept already. -/
theorem reportsProgrammed_throughout_iff {devName : String} {id : Bool}
    {bus : σ} {data : Stk8321Data}
    (probed : ((stk8321Probe devName id).run environment bus).1 =
      (0, some data))
    (succeed : WritesSucceed
      ((stk8321Probe devName id).trace environment bus))
    (steps : List SensorStep) :
    let probe := stk8321Probe devName id
    let start : Sensor σ :=
      { data
        bus := (probe.run environment bus).2
        log := probe.trace environment bus }
    (Throughout (sensorStep environment) (ReportsProgrammed environment)
          steps start ∧
        EachStep (sensorStep environment)
          (FailureKeepsFrequency environment) steps start) ↔
      EachStep (sensorStep environment) (AcceptedOrKept environment) steps
        start := by
  intro probe start
  have startInForce : start.setting.InForce :=
    inForce_of_probed environment probed succeed
  have sameProperty :
      Throughout (sensorStep environment) (ReportsProgrammed environment)
          steps start ↔
        Throughout (sensorStep environment)
          (fun reached => reached.setting.InForce) steps start :=
    throughout_congr (reportsProgrammed_iff environment) steps start
  have sameCondition :
      EachStep (sensorStep environment) (AcceptedOrKept environment) steps
          start ↔
        EachStep (sensorStep environment)
          (fun step reached =>
            Setting.RefusesOnlyKept
              (bandwidthAttempt environment step reached) reached.setting)
          steps start :=
    eachStep_congr (acceptedOrKept_iff environment) steps start
  have readAlone : ∀ step (reached : Sensor σ),
      (WriteFails environment step reached →
        (sensorStep environment step reached).setting.kept =
          reached.setting.kept) →
        FailureKeepsFrequency environment step reached := by
    intro step reached kept failed address
    have same := regBits_inj (kept failed)
    rw [readFrequency_eq, readFrequency_eq, same]
  rw [sameProperty, sameCondition]
  exact
    Setting.throughout_inForce_and_eachStep_iff
      (setting_sensorStep environment)
      (fun _ _ failed => bandwidthAttempt_of_error environment failed)
      readAlone steps startInForce

end Operations

/-! ## A bus that fails after some writes -/

/-- The state is the number of writes of the bandwidth that still succeed. -/
def limitedBus : Environment stkSignature Nat
  | .i2cSmbusWriteByteData register _, left =>
      if register ≠ regBwsel then (0, left)
      else if left = 0 then (-eio, 0)
      else (0, left - 1)
  | .devmIioDeviceAlloc, left => (true, left)
  | .i2cSmbusReadByteData _, left => (0, left)
  | .acpiCompanion, left => (true, left)
  | .acpiHasMethod _, left => (false, left)
  | .acpiEvaluateObject _, left => (none, left)
  | .iioReadMountMatrix, left => ((0, []), left)
  | .i2cAcpiNewDevice, left => ((), left)
  | .devmIioDeviceRegister, left => (0, left)

/-- After a probe of a device that has an entry in the table of ids. -/
def limitedStart (writes : Nat) : Sensor Nat :=
  let probe := stk8321Probe "stk8321" true
  { data := { orientation := emptyOrientation, sampFreq := firstSampFreq }
    bus := (probe.run limitedBus writes).2
    log := probe.trace limitedBus writes }

theorem limitedBus_probed (writes : Nat) :
    ((stk8321Probe "stk8321" true).run limitedBus (writes + 1)).1 =
      (0, some (limitedStart (writes + 1)).data) :=
  rfl

theorem limitedBus_writesSucceed (writes : Nat) :
    WritesSucceed
      ((stk8321Probe "stk8321" true).trace limitedBus (writes + 1)) := by
  have trace :
      (stk8321Probe "stk8321" true).trace limitedBus (writes + 1) =
        [⟨.devmIioDeviceAlloc, true⟩,
          ⟨.i2cSmbusWriteByteData regSwrst 0, (0 : Int)⟩,
          ⟨.i2cSmbusWriteByteData regPowmode powmodeSuspend, (0 : Int)⟩,
          ⟨.i2cSmbusWriteByteData regRangesel rangesel2g, (0 : Int)⟩,
          ⟨.i2cSmbusWriteByteData regBwsel 0x08, (0 : Int)⟩,
          ⟨.i2cSmbusWriteByteData regDatasetup 0, (0 : Int)⟩,
          ⟨.i2cSmbusWriteByteData regPowmode powmodeNormal, (0 : Int)⟩,
          ⟨.iioReadMountMatrix, (0, [])⟩,
          ⟨.devmIioDeviceRegister, (0 : Int)⟩] := rfl
  intro register value answer member
  rw [trace] at member
  simp only [List.mem_cons, Event.mk.injEq, reduceCtorEq, false_and,
    StkRequest.i2cSmbusWriteByteData.injEq, heq_eq_eq, List.not_mem_nil,
    or_false, false_or] at member
  rcases member with ⟨-, zero⟩ | ⟨-, zero⟩ | ⟨-, zero⟩ | ⟨-, zero⟩ |
    ⟨-, zero⟩ | ⟨-, zero⟩ <;>
    exact Int.le_of_eq zero.symm

theorem reportsProgrammed_throughout_iff_125 :
    Throughout (sensorStep limitedBus) (ReportsProgrammed limitedBus)
      [.writeRaw 125 0 .sampFreq, .suspend, .resume] (limitedStart 2) := by
  have accepted :
      EachStep (sensorStep limitedBus) (AcceptedOrKept limitedBus)
        [.writeRaw 125 0 .sampFreq, .suspend, .resume] (limitedStart 2) :=
    ⟨fun _ _ _ => Or.inl rfl, trivial, trivial, trivial⟩
  exact
    ((reportsProgrammed_throughout_iff limitedBus (limitedBus_probed 1)
      (limitedBus_writesSucceed 1)
      [.writeRaw 125 0 .sampFreq, .suspend, .resume]).mpr accepted).1

/-- A frequency that the chip refuses is read all the same. -/
theorem refused_frequency_is_read :
    let step := SensorStep.writeRaw 125 0 .sampFreq
    let written := sensorStep limitedBus step (limitedStart 1)
    ((stk8321Probe "stk8321" true).run limitedBus 1).1 =
        (0, some (limitedStart 1).data) ∧
      WritesSucceed ((stk8321Probe "stk8321" true).trace limitedBus 1) ∧
      ((stk8321WriteRaw (limitedStart 1).data 125 0 .sampFreq).run
        limitedBus (limitedStart 1).bus).1.1 = -eio ∧
      readFrequency limitedBus (limitedStart 1) 0 =
        .ok (.intPlusMicro 7 810000) ∧
      readFrequency limitedBus written 0 = .ok (.intPlusMicro 125 0) ∧
      lastBandwidth written.log = some (sampFreqEntry 0).regBits ∧
      ¬ ReportsProgrammed limitedBus written ∧
      ¬ FailureKeepsFrequency limitedBus step (limitedStart 1) := by
  intro step written
  have fails :
      ((stk8321WriteRaw (limitedStart 1).data 125 0 .sampFreq).run
        limitedBus (limitedStart 1).bus).1.1 = -eio := rfl
  have before : readFrequency limitedBus (limitedStart 1) 0 =
      .ok (.intPlusMicro 7 810000) := rfl
  have after : readFrequency limitedBus written 0 =
      .ok (.intPlusMicro 125 0) := rfl
  have programmed :
      lastBandwidth written.log = some (sampFreqEntry 0).regBits := rfl
  refine ⟨limitedBus_probed 0, limitedBus_writesSucceed 0, fails, before,
    after, programmed, ?_, ?_⟩
  · rintro ⟨entry, accepted, reads⟩
    have first : 0 = entry :=
      regBits_inj (Option.some.inj (programmed.symm.trans accepted))
    subst first
    have same := after.symm.trans (reads 0)
    exact absurd same (by decide)
  · intro keeps
    have negative : WriteFails limitedBus step (limitedStart 1) := by
      rw [WriteFails, fails]
      decide
    have same := (keeps negative 0).symm.trans after
    rw [before] at same
    exact absurd same (by decide)

end TuxedoDrivers.Stk8321
