import TuxedoDrivers.Io.Tdp
import TuxedoDrivers.Uniwill.PowerStates

/-!
# Failed reads and read-modify-writes

An operation that changes some bits of an EC register has to write the
others back as they were, which it can only do when it could read them.  The
main result goes through all such operations and says exactly when a failed
read keeps the operation from writing the register.
-/

namespace TuxedoDrivers.Uniwill

open Interaction

/-! ## Reads that feed a write -/

/-- The last read of a register before it is first written; `last` is the
last read so far. -/
def feedingReadAfter (address : U16) :
    Option EcRead → List EcEvent → Option EcRead
  | last, [] => last
  | last, .read read outcome :: rest =>
      if read = address then feedingReadAfter address (some outcome) rest
      else feedingReadAfter address last rest
  | last, .write written _ _ :: rest =>
      if written = address then last
      else feedingReadAfter address last rest

def feedingRead (address : U16) (trace : List EcEvent) : Option EcRead :=
  feedingReadAfter address none trace

def Written (address : U16) (trace : List EcEvent) : Prop :=
  ∃ data outcome, .write address data outcome ∈ trace

/-- If the read that feeds the update of the register failed, the register
is not written. -/
def KeepsUnread (address : U16) (trace : List EcEvent) : Prop :=
  ∀ left, feedingRead address trace = some (.fail left) →
    ¬ Written address trace

section Traces

variable {address : U16}

theorem feedingReadAfter_append_of_avoids
    {first : List EcEvent}
    (avoids : ∀ event ∈ first, event.address ≠ address)
    (last : Option EcRead) (second : List EcEvent) :
    feedingReadAfter address last (first ++ second) =
      feedingReadAfter address last second := by
  induction first with
  | nil =>
      rfl
  | cons event rest inductionHypothesis =>
      have elsewhere := avoids event List.mem_cons_self
      have later :=
        inductionHypothesis fun access member =>
          avoids access (List.mem_cons_of_mem _ member)
      cases event with
      | read read outcome =>
          exact (if_neg elsewhere).trans later
      | write written data outcome =>
          exact (if_neg elsewhere).trans later

theorem feedingReadAfter_of_avoids
    {trace : List EcEvent}
    (avoids : ∀ event ∈ trace, event.address ≠ address)
    (last : Option EcRead) :
    feedingReadAfter address last trace = last := by
  have appended := feedingReadAfter_append_of_avoids avoids last []
  rwa [List.append_nil] at appended

theorem not_written_of_avoids
    {trace : List EcEvent}
    (avoids : ∀ event ∈ trace, event.address ≠ address) :
    ¬ Written address trace := by
  rintro ⟨data, outcome, member⟩
  exact avoids _ member rfl

@[simp]
theorem written_append_iff (first second : List EcEvent) :
    Written address (first ++ second) ↔
      Written address first ∨ Written address second := by
  simp [Written, exists_or]

end Traces

/-! ## The operations -/

/-- The operations of the Uniwill driver that update some bits of an EC
register. -/
inductive RegisterUpdate where
  | performanceProfileV1 (profile : U32)
  | fullFanMode (enable : Bool)
  | fanAuto
  | customProfileMode (zeroBitInitially : Bool)
  | kbdBlEnable (enable : U8)
  | lightbarAnimation (animationStatus : Bool)
  | suspend
  | resume
  | ledsInit
  | chargingPriority (value : U8)
  | chargingProfile (value : U8)
  | acAutoBoot (value : U8)
  | usbPowershare (value : U8)
  | fnLock (on : Int)

namespace RegisterUpdate

/-- What the operation runs; of suspend, resume and the initialisation of
the LEDs it is the update of the register. -/
def program (dmi : Dmi) : RegisterUpdate → Driver Unit
  | .performanceProfileV1 profile =>
      (fun _ => ()) <$> Io.uwSetPerformanceProfileV1 profile
  | .fullFanMode enable => (fun _ => ()) <$> setFullFanMode enable
  | .fanAuto => (fun _ => ()) <$> uwSetFanAuto
  | .customProfileMode zeroBitInitially =>
      uniwillSetCustomProfileMode dmi zeroBitInitially
  | .kbdBlEnable enable => uniwillWriteKbdBlEnable enable
  | .lightbarAnimation animationStatus =>
      uniwillWriteLightbarAnimation animationStatus
  | .suspend => suspendCustomProfile
  | .resume => resumeCustomProfile
  | .ledsInit => enableFixedColor5
  | .chargingPriority value => (fun _ => ()) <$> uwSetChargingPriority value
  | .chargingProfile value => (fun _ => ()) <$> uwSetChargingProfile value
  | .acAutoBoot value => (fun _ => ()) <$> uwSetAcAutoBoot value
  | .usbPowershare value => (fun _ => ()) <$> uwSetUsbPowershare value
  | .fnLock on => (fun _ => ()) <$> uniwillWmiFnLockSet on

/-- The registers the operation updates. -/
def registers : RegisterUpdate → List U16
  | .performanceProfileV1 _ => [0x0751]
  | .fullFanMode _ => [0x0751]
  | .fanAuto => [0x0751, 0x07c5, 0x07c6]
  | .customProfileMode _ => [uwEcRegCustomProfile]
  | .kbdBlEnable _ => [uwEcRegKbdBlStatus]
  | .lightbarAnimation _ => [0x0748]
  | .suspend => [uwEcRegCustomProfile]
  | .resume => [uwEcRegCustomProfile]
  | .ledsInit => [uwEcRegFeatures1]
  | .chargingPriority _ => [0x07cc]
  | .chargingProfile _ => [0x07a6]
  | .acAutoBoot _ => [uwEcRegAcAutoBootStatus]
  | .usbPowershare _ => [uwEcRegUsbPowershareStatus]
  | .fnLock _ => [uwEcRegKbdFnLockStatusBit]

/-- The operation does not write the register although the failed read left
a byte: because it checks the status, because it has nothing to do on this
device or for this argument, or because that byte happens to need no
change. -/
def Discards (dmi : Dmi) (statics : DriverState) (address : U16)
    (left : U8) : RegisterUpdate → Prop
  | .performanceProfileV1 profile =>
      profile ≠ 1 ∧ profile ≠ 2 ∧ profile ≠ 3
  | .fullFanMode enable => enable = false ∧ left &&& 0x40 = 0
  | .fanAuto =>
      statics.uniwillDeviceFeatures.uniwillHasUniversalEcFanControl = true ∧
        if address = 0x07c6 then (left >>> 2) &&& 1 = 0
        else (left >>> 7) &&& 1 = 0
  | .customProfileMode _ =>
      (if statics.uwFeatsLoaded = true then
        statics.uniwillDeviceFeatures.uniwillCustomProfileModeNeeded
      else customProfileModeNeeded dmi) = false
  | .kbdBlEnable _ => False
  | .lightbarAnimation _ => False
  | .suspend =>
      statics.uniwillDeviceFeatures.uniwillCustomProfileModeNeeded = false
  | .resume =>
      statics.uniwillDeviceFeatures.uniwillCustomProfileModeNeeded = false
  | .ledsInit => False
  | .chargingPriority _ => True
  | .chargingProfile _ => True
  | .acAutoBoot _ => True
  | .usbPowershare _ => True
  | .fnLock _ => True

end RegisterUpdate

/-! ## Each operation on its own -/

section Operations

variable {σ : Type} (device : EcDevice σ) (machine : Machine σ)
  {address : U16} {left : U8}

private theorem updateChecked_keepsUnread
    (update : U8 → U8) (written : DriverState → DriverState) :
    KeepsUnread address
      (device.trace (updateChecked address update written) machine) := by
  intro left feeding
  rw [trace_updateChecked] at feeding ⊢
  rcases shape : (device.read address machine.2).1 with data | byte
  · simp [shape, feedingRead, feedingReadAfter] at feeding
  · simp [Written]

private theorem updateUnchecked_writes (update : U8 → U8) :
    Written address
      (device.trace (updateUnchecked address update) machine) := by
  rw [trace_updateUnchecked]
  exact ⟨_, _, List.mem_cons_of_mem _ List.mem_cons_self⟩

private theorem updateChecked_discards
    {register : U16} (same : address = register)
    {update : U8 → U8} {written : DriverState → DriverState}
    (feeding :
      feedingRead address
          (device.trace (updateChecked register update written) machine) =
        some (.fail left)) :
    ¬ Written address
        (device.trace (updateChecked register update written) machine) ↔
      True := by
  subst same
  exact
    iff_of_true
      (updateChecked_keepsUnread device machine update written left feeding)
      trivial

private theorem updateUnchecked_discards
    {register : U16} (same : address = register) (update : U8 → U8) :
    ¬ Written address
        (device.trace (updateUnchecked register update) machine) ↔
      False := by
  subst same
  exact
    iff_of_false
      (not_not.mpr (updateUnchecked_writes device machine update)) id

private theorem performanceProfileV1_writes_iff (profile : U32) :
    Written 0x0751
        (device.trace (Io.uwSetPerformanceProfileV1 profile) machine) ↔
      profile = 1 ∨ profile = 2 ∨ profile = 3 := by
  have notInvalid :
      BitVec.ofInt 32 (device.read 0x0751 machine.2).1.status ≠
        BitVec.ofInt 32 (-einval) := by
    cases (device.read 0x0751 machine.2).1
    · exact (by decide : BitVec.ofInt 32 0 ≠ BitVec.ofInt 32 (-einval))
    · exact (by decide : BitVec.ofInt 32 (-eio) ≠ BitVec.ofInt 32 (-einval))
  have compared : ∀ result : U32, 0 ≤ result := fun result =>
    Nat.zero_le result.toNat
  simp only [Io.uwSetPerformanceProfileV1, trace_bind,
    trace_uniwillReadEcRam, run_uniwillReadEcRam, compared, if_true,
    Io.performanceProfileValue_status]
  by_cases valid : profile = 1 ∨ profile = 2 ∨ profile = 3
  · simp only [valid, if_true, notInvalid, ne_eq, not_false_eq_true,
      trace_bind, trace_uniwillWriteEcRam, trace_pure, iff_true]
    exact ⟨_, _, List.mem_cons_of_mem _ List.mem_cons_self⟩
  · simp only [valid, if_false, ne_eq, not_true_eq_false, trace_pure,
      iff_false]
    simp [Written]

private theorem fullFanMode_writes_iff (enable : Bool) :
    Written 0x0751 (device.trace (setFullFanMode enable) machine) ↔
      ¬ (enable = false ∧
        (device.read 0x0751 machine.2).1.data &&& 0x40 = 0) := by
  simp only [setFullFanMode, trace_bind, trace_uniwillReadEcRam,
    run_uniwillReadEcRam, trace_ite, trace_uniwillWriteEcRam,
    trace_pure]
  by_cases clear : (device.read 0x0751 machine.2).1.data &&& 0x40 = 0
  · cases enable <;>
      simp only [clear, ne_eq, not_true_eq_false, Bool.false_eq_true,
        and_self, and_true, if_true, if_false] <;>
      simp [Written]
  · cases enable <;>
      simp only [clear, ne_eq, not_false_eq_true, and_false, if_true,
        if_false] <;>
      simp [Written]

private theorem feedingRead_setFullFanMode (enable : Bool) :
    feedingRead 0x0751 (device.trace (setFullFanMode enable) machine) =
      some (device.read 0x0751 machine.2).1 := by
  simp only [setFullFanMode, trace_bind, trace_uniwillReadEcRam,
    run_uniwillReadEcRam, trace_ite, trace_uniwillWriteEcRam, trace_pure]
  split
  · simp [feedingRead, feedingReadAfter]
  · split <;> simp [feedingRead, feedingReadAfter]

/-- Suspend and resume both update the register where the feature is
needed. -/
private theorem customProfileIfNeeded_writes_iff (update : U8 → U8) :
    Written uwEcRegCustomProfile
        (device.trace (do
            let statics ← getStatics
            if statics.uniwillDeviceFeatures.uniwillCustomProfileModeNeeded =
                true then
              let _ ← updateUnchecked uwEcRegCustomProfile update
              return ()
            else
              return ())
          machine) ↔
      machine.1.uniwillDeviceFeatures.uniwillCustomProfileModeNeeded =
        true := by
  simp only [trace_bind, run_getStatics, trace_getStatics, trace_ite,
    trace_pure, List.nil_append, List.append_nil]
  split
  · exact iff_of_true (updateUnchecked_writes device machine update) ‹_›
  · exact iff_of_false (by simp [Written]) ‹_›

private theorem writeCustomProfileMode_writes (zeroBitInitially : Bool) :
    Written uwEcRegCustomProfile
      (device.trace (writeCustomProfileMode zeroBitInitially) machine) := by
  cases zeroBitInitially
  · simp only [writeCustomProfileMode, trace_bind, trace_uniwillReadEcRam,
      Bool.false_eq_true, if_false, trace_uniwillWriteEcRam, trace_pure]
    exact ⟨_, _, List.mem_cons_of_mem _ List.mem_cons_self⟩
  · simp only [writeCustomProfileMode, trace_bind, trace_uniwillReadEcRam,
      if_true, trace_uniwillWriteEcRam, trace_pure]
    exact ⟨_, _, List.mem_cons_of_mem _ List.mem_cons_self⟩

private theorem customProfileMode_writes_iff
    (dmi : Dmi) (zeroBitInitially : Bool) :
    Written uwEcRegCustomProfile
        (device.trace (uniwillSetCustomProfileMode dmi zeroBitInitially)
          machine) ↔
      (if machine.1.uwFeatsLoaded = true then
        machine.1.uniwillDeviceFeatures.uniwillCustomProfileModeNeeded
      else customProfileModeNeeded dmi) = true := by
  have onlyReads :
      ¬ Written uwEcRegCustomProfile
        (device.trace (uniwillGetDeviceFeatures dmi) machine) := by
    rintro ⟨data, outcome, member⟩
    exact request_of_mem_trace (uniwillGetDeviceFeatures_asks dmi) member
  rw [← customProfileModeNeeded_of_features dmi device machine]
  simp only [uniwillSetCustomProfileMode, trace_bind, written_append_iff,
    onlyReads, false_or, trace_ite, trace_pure]
  split
  · exact
      iff_of_true
        (writeCustomProfileMode_writes device _ zeroBitInitially) ‹_›
  · refine iff_of_false ?_ ‹_›
    simp [Written]

/-- The update of one switch of the custom tables: a read, and unless the
bit is clear some accesses that begin with a write. -/
private theorem trace_uwDisableCustomFanTable
    (address : U16) (offset : Nat) :
    ∃ tail,
      device.trace (uwDisableCustomFanTable address offset) machine =
          .read address (device.read address machine.2).1 :: tail ∧
        (tail = [] ∨
          ∃ data outcome rest,
            tail = .write address data outcome :: rest) ∧
        (tail = [] ↔
          ((device.read address machine.2).1.data >>> offset) &&& 1 = 0) := by
  simp only [uwDisableCustomFanTable, trace_bind, trace_uniwillReadEcRam,
    run_uniwillReadEcRam, trace_ite, trace_pure, List.append_nil]
  by_cases clear :
      ((device.read address machine.2).1.data >>> offset) &&& 1 = 0
  · refine ⟨[], ?_, Or.inl rfl, iff_of_true rfl clear⟩
    rw [if_neg (not_not.mpr clear)]
    rfl
  · rw [if_pos clear]
    have writes : ∃ data outcome rest,
        device.trace
            (uniwillWriteEcRamWithRetry address
              ((device.read address machine.2).1.data - (1 <<< offset)) 3)
            (machine.1, (device.read address machine.2).2) =
          .write address data outcome :: rest := by
      simp only [uniwillWriteEcRamWithRetry, writeAttempts, trace_bind,
        trace_uniwillWriteEcRam, List.singleton_append]
      exact ⟨_, _, _, rfl⟩
    refine ⟨_, rfl, Or.inr writes, iff_of_false ?_ clear⟩
    obtain ⟨data, outcome, rest, shape⟩ := writes
    rw [shape]
    exact List.cons_ne_nil _ _

private theorem avoids_uwDisableCustomFanTable
    (table : U16) (offset : Nat) (elsewhere : table ≠ address) :
    ∀ event ∈
        device.trace (uwDisableCustomFanTable table offset) machine,
      event.address ≠ address := by
  intro event member
  have avoids := uwDisableCustomFanTable_avoids table offset elsewhere
  exact address_of_mem_trace avoids member

/-- In a trace with one such update of the register, its read feeds the
update, and the bit it found decides whether the register is written. -/
private theorem uwDisableCustomFanTable_between
    {before after : List EcEvent}
    (avoidsBefore : ∀ event ∈ before, event.address ≠ address)
    (avoidsAfter : ∀ event ∈ after, event.address ≠ address)
    (offset : Nat) :
    feedingRead address
        (before ++
          device.trace (uwDisableCustomFanTable address offset) machine ++
          after) =
        some (device.read address machine.2).1 ∧
      (¬ Written address
          (before ++
            device.trace (uwDisableCustomFanTable address offset) machine ++
            after) ↔
        ((device.read address machine.2).1.data >>> offset) &&& 1 = 0) := by
  obtain ⟨tail, shape, begins, empty⟩ :=
    trace_uwDisableCustomFanTable device machine address offset
  rw [shape, ← empty]
  constructor
  · rw [feedingRead, List.append_assoc,
      feedingReadAfter_append_of_avoids avoidsBefore]
    rcases begins with rfl | ⟨data, written, rest, rfl⟩
    · simp [feedingReadAfter, feedingReadAfter_of_avoids avoidsAfter]
    · simp [feedingReadAfter]
  · rw [written_append_iff, written_append_iff]
    simp only [not_written_of_avoids avoidsBefore,
      not_written_of_avoids avoidsAfter, false_or, or_false]
    rcases begins with rfl | ⟨data, written, rest, rfl⟩
    · simp [Written]
    · refine iff_of_false (not_not.mpr ⟨data, written, ?_⟩)
        (List.cons_ne_nil _ _)
      exact List.mem_cons_of_mem _ List.mem_cons_self

private theorem trace_uwSetFanAuto_direct
    (direct :
      machine.1.uniwillDeviceFeatures.uniwillHasUniversalEcFanControl =
        false) :
    ∃ outcome data written,
      device.trace uwSetFanAuto machine =
        [.read 0x0751 outcome, .write 0x0751 data written] := by
  simp only [uwSetFanAuto, trace_bind, run_getStatics, trace_getStatics,
    direct, Bool.false_eq_true, if_false, uwSetFanAutoDirect,
    trace_setStatics, trace_uniwillReadEcRam, trace_uniwillWriteEcRam,
    trace_pure, List.nil_append, List.append_nil, List.singleton_append]
  exact ⟨_, _, _, rfl⟩

/-- On the tables the two updates follow each other, each with its own
register. -/
private theorem trace_uwSetFanAuto_tables
    (universal :
      machine.1.uniwillDeviceFeatures.uniwillHasUniversalEcFanControl =
        true) :
    device.trace uwSetFanAuto machine =
      device.trace (uwDisableCustomFanTable 0x07c6 2) machine ++
        device.trace (uwDisableCustomFanTable 0x07c5 7)
          (device.run (uwDisableCustomFanTable 0x07c6 2) machine).2 := by
  simp only [uwSetFanAuto, trace_bind, run_getStatics, trace_getStatics,
    universal, if_true, uwSetFanAutoTables, trace_setStatics, trace_pure,
    List.nil_append, List.append_nil]

/-- The direct path updates the mode register whatever it has read. -/
private theorem fanAuto_direct_writes
    (direct :
      machine.1.uniwillDeviceFeatures.uniwillHasUniversalEcFanControl =
        false)
    (feeding :
      feedingRead address (device.trace uwSetFanAuto machine) =
        some (.fail left)) :
    Written address (device.trace uwSetFanAuto machine) := by
  obtain ⟨outcome, data, written, shape⟩ :=
    trace_uwSetFanAuto_direct device machine direct
  rw [shape] at feeding ⊢
  by_cases mode : address = 0x0751
  · rw [mode]
    exact ⟨data, written, List.mem_cons_of_mem _ List.mem_cons_self⟩
  · have avoids :
        ∀ event ∈ [EcEvent.read 0x0751 outcome,
          .write 0x0751 data written], event.address ≠ address := by
      simpa [EcEvent.address] using Ne.symm mode
    rw [feedingRead, feedingReadAfter_of_avoids avoids] at feeding
    cases feeding

/-- The path of the tables updates each of their two registers in one
place and does not access the mode register. -/
private theorem fanAuto_tables_discards_iff
    (universal :
      machine.1.uniwillDeviceFeatures.uniwillHasUniversalEcFanControl =
        true)
    (registered : address ∈ RegisterUpdate.fanAuto.registers)
    (feeding :
      feedingRead address (device.trace uwSetFanAuto machine) =
        some (.fail left)) :
    ¬ Written address (device.trace uwSetFanAuto machine) ↔
      if address = 0x07c6 then (left >>> 2) &&& 1 = 0
      else (left >>> 7) &&& 1 = 0 := by
  rw [trace_uwSetFanAuto_tables device machine universal] at feeding ⊢
  have avoidsNil : ∀ event ∈ ([] : List EcEvent),
      event.address ≠ address := by
    simp
  have cases : address = 0x0751 ∨ address = 0x07c5 ∨ address = 0x07c6 := by
    simpa [RegisterUpdate.registers] using registered
  rcases cases with rfl | rfl | rfl
  · rw [feedingRead,
      feedingReadAfter_append_of_avoids
        (avoids_uwDisableCustomFanTable device machine 0x07c6 2
          (by decide)),
      feedingReadAfter_of_avoids
        (avoids_uwDisableCustomFanTable device _ 0x07c5 7
          (by decide))] at feeding
    cases feeding
  · obtain ⟨read, written⟩ :=
      uwDisableCustomFanTable_between device
        (device.run (uwDisableCustomFanTable 0x07c6 2) machine).2
        (avoids_uwDisableCustomFanTable device machine 0x07c6 2
          (by decide))
        avoidsNil 7
    rw [List.append_nil] at read written
    have failed := Option.some.inj (read.symm.trans feeding)
    rw [written, failed, if_neg (by decide)]
    rfl
  · obtain ⟨read, written⟩ :=
      uwDisableCustomFanTable_between device machine avoidsNil
        (avoids_uwDisableCustomFanTable device
          (device.run (uwDisableCustomFanTable 0x07c6 2) machine).2
          0x07c5 7 (by decide)) 2
    rw [List.nil_append] at read written
    have failed := Option.some.inj (read.symm.trans feeding)
    rw [written, failed, if_pos rfl]
    rfl

private theorem fanAuto_discards_iff
    (registered : address ∈ RegisterUpdate.fanAuto.registers)
    (feeding :
      feedingRead address (device.trace uwSetFanAuto machine) =
        some (.fail left)) :
    ¬ Written address (device.trace uwSetFanAuto machine) ↔
      machine.1.uniwillDeviceFeatures.uniwillHasUniversalEcFanControl =
          true ∧
        if address = 0x07c6 then (left >>> 2) &&& 1 = 0
        else (left >>> 7) &&& 1 = 0 := by
  cases flag :
      machine.1.uniwillDeviceFeatures.uniwillHasUniversalEcFanControl with
  | false =>
      have written := fanAuto_direct_writes device machine flag feeding
      exact iff_of_false (not_not.mpr written) (by simp)
  | true =>
      rw [fanAuto_tables_discards_iff device machine flag registered feeding]
      exact (and_iff_right rfl).symm

end Operations

/-- Each operation, for a read that failed: it leaves the register alone or
it does not. -/
private theorem discards_iff
    {σ : Type} (dmi : Dmi) (device : EcDevice σ) (machine : Machine σ)
    (operation : RegisterUpdate) {address : U16}
    (registered : address ∈ operation.registers) {left : U8}
    (feeding :
      feedingRead address (device.trace (operation.program dmi) machine) =
        some (.fail left)) :
    ¬ Written address (device.trace (operation.program dmi) machine) ↔
      operation.Discards dmi machine.1 address left := by
  cases operation with
  | performanceProfileV1 profile =>
      cases List.mem_singleton.mp registered
      simp only [RegisterUpdate.program, trace_map,
        performanceProfileV1_writes_iff, not_or]
      rfl
  | fullFanMode enable =>
      cases List.mem_singleton.mp registered
      simp only [RegisterUpdate.program, trace_map] at feeding ⊢
      rw [feedingRead_setFullFanMode] at feeding
      rw [fullFanMode_writes_iff, not_not, Option.some.inj feeding]
      rfl
  | fanAuto =>
      simp only [RegisterUpdate.program, trace_map] at feeding ⊢
      exact fanAuto_discards_iff device machine registered feeding
  | customProfileMode zeroBitInitially =>
      cases List.mem_singleton.mp registered
      rw [RegisterUpdate.program, customProfileMode_writes_iff,
        Bool.not_eq_true]
      rfl
  | kbdBlEnable enable =>
      simp only [RegisterUpdate.program, uniwillWriteKbdBlEnable,
        trace_bind, trace_pure, List.append_nil]
      exact
        updateUnchecked_discards device machine
          (List.mem_singleton.mp registered) _
  | lightbarAnimation animationStatus =>
      simp only [RegisterUpdate.program, uniwillWriteLightbarAnimation,
        trace_bind, trace_pure, List.append_nil]
      exact
        updateUnchecked_discards device machine
          (List.mem_singleton.mp registered) _
  | suspend =>
      cases List.mem_singleton.mp registered
      rw [RegisterUpdate.Discards, ← Bool.not_eq_true]
      exact
        not_congr (customProfileIfNeeded_writes_iff device machine _)
  | resume =>
      cases List.mem_singleton.mp registered
      rw [RegisterUpdate.Discards, ← Bool.not_eq_true]
      exact
        not_congr (customProfileIfNeeded_writes_iff device machine _)
  | ledsInit =>
      simp only [RegisterUpdate.program, enableFixedColor5, trace_bind,
        trace_pure, List.append_nil]
      exact
        updateUnchecked_discards device machine
          (List.mem_singleton.mp registered) _
  | chargingPriority value =>
      simp only [RegisterUpdate.program, trace_map, uwSetChargingPriority]
        at feeding ⊢
      exact
        updateChecked_discards device machine
          (List.mem_singleton.mp registered) feeding
  | chargingProfile value =>
      simp only [RegisterUpdate.program, trace_map, uwSetChargingProfile]
        at feeding ⊢
      exact
        updateChecked_discards device machine
          (List.mem_singleton.mp registered) feeding
  | acAutoBoot value =>
      simp only [RegisterUpdate.program, trace_map, uwSetAcAutoBoot]
        at feeding ⊢
      exact
        updateChecked_discards device machine
          (List.mem_singleton.mp registered) feeding
  | usbPowershare value =>
      simp only [RegisterUpdate.program, trace_map, uwSetUsbPowershare]
        at feeding ⊢
      exact
        updateChecked_discards device machine
          (List.mem_singleton.mp registered) feeding
  | fnLock on =>
      simp only [RegisterUpdate.program, trace_map, uniwillWmiFnLockSet]
        at feeding ⊢
      exact
        updateChecked_discards device machine
          (List.mem_singleton.mp registered) feeding

/-- A failed read keeps the operation from writing the register exactly when
the operation discards what the read left. -/
theorem keepsUnread_iff
    {σ : Type} (dmi : Dmi) (device : EcDevice σ) (machine : Machine σ)
    (operation : RegisterUpdate) :
    (∀ address ∈ operation.registers,
        KeepsUnread address
          (device.trace (operation.program dmi) machine)) ↔
      ∀ address ∈ operation.registers, ∀ left,
        feedingRead address
            (device.trace (operation.program dmi) machine) =
          some (.fail left) →
        operation.Discards dmi machine.1 address left := by
  constructor
  · intro keeps address registered left feeding
    exact
      (discards_iff dmi device machine operation registered feeding).mp
        (keeps address registered left feeding)
  · intro discards address registered left feeding
    exact
      (discards_iff dmi device machine operation registered feeding).mpr
        (discards address registered left feeding)

/-- The next read fails and leaves the marker byte of the back end. -/
def failingReadMachine : Machine FaultyRam :=
  ({}, ⟨fun _ => 0, [⟨false, false, 0xfe⟩]⟩)

/-- The profile is written over the byte of the failed read, which among
other bits turns "full fan mode" on. -/
theorem uwSetPerformanceProfileV1_failedRead :
    (faultyEc.run (Io.uwSetPerformanceProfileV1 2)
        failingReadMachine).2.2.ram 0x0751 = 0x4e ∧
      ¬ ∀ address ∈ (RegisterUpdate.performanceProfileV1 2).registers,
        KeepsUnread address
          (faultyEc.trace
            ((RegisterUpdate.performanceProfileV1 2).program fun _ => none)
            failingReadMachine) := by
  refine ⟨by decide, fun keeps => ?_⟩
  refine keeps 0x0751 List.mem_cons_self 0xfe (by decide) ?_
  exact ⟨0x4e, .ok, by decide⟩

end TuxedoDrivers.Uniwill
