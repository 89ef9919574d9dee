import Mathlib.Tactic.IntervalCases
import TuxedoDrivers.Clevo.Flexicharger

/-!
# Firmware of the flexicharger

A firmware that keeps a start, an end and a status, with one of the two
protocols.  A write sends all three, and what is read places them differently
from what is written.  The last section says what both protocols come to.
-/

namespace TuxedoDrivers.Clevo

open Interaction

/-! ## Words of the legacy protocol -/

/-- What the read command returns for the three values. -/
def legacyWord (values : Flexicharger) : U32 :=
  values.status.setWidth 32 ||| (values.start.setWidth 32 <<< 8) |||
    (values.stop.setWidth 32 <<< 16)

section Words

variable (values : Flexicharger) (start stop status : U8)

theorem legacyWord_start :
    ((legacyWord values >>> 0x08) &&& 0xff).setWidth 8 = values.start := by
  ext position bound
  simp only [legacyWord]
  interval_cases position <;> simp

theorem legacyWord_stop :
    ((legacyWord values >>> 0x10) &&& 0xff).setWidth 8 = values.stop := by
  ext position bound
  simp only [legacyWord]
  interval_cases position <;> simp

theorem byte_eq_zero_or_one {byte : U8} (small : byte.toNat ≤ 1) :
    byte = 0 ∨ byte = 1 := by
  have cases : byte.toNat = 0 ∨ byte.toNat = 1 := by omega
  rcases cases with zero | one
  · exact Or.inl (BitVec.eq_of_toNat_eq zero)
  · exact Or.inr (BitVec.eq_of_toNat_eq one)

theorem legacyWord_status (small : values.status.toNat ≤ 1) :
    (legacyWord values &&& 0x01).setWidth 8 = values.status := by
  rcases byte_eq_zero_or_one small with zero | one
  · ext position bound
    simp only [legacyWord, zero]
    interval_cases position <;> simp
  · ext position bound
    simp only [legacyWord, one]
    interval_cases position <;> simp

/-- What the detection writes is the write of the thresholds it read. -/
theorem legacyWord_writtenBack :
    0x06000000 ||| ((legacyWord values >>> 8) &&& 0xffff) =
      writeDataThresholds values.start values.stop := by
  ext position bound
  simp only [legacyWord, writeDataThresholds]
  interval_cases position <;> simp

theorem writeDataThresholds_subcommand :
    writeDataThresholds start stop >>> 24 = 6 := by
  ext position bound
  simp only [writeDataThresholds]
  interval_cases position <;> simp

theorem writeDataThresholds_start :
    (writeDataThresholds start stop).setWidth 8 = start := by
  ext position bound
  simp only [writeDataThresholds]
  interval_cases position <;> simp

theorem writeDataThresholds_stop :
    (writeDataThresholds start stop >>> 8).setWidth 8 = stop := by
  ext position bound
  simp only [writeDataThresholds]
  interval_cases position <;> simp

theorem writeDataStatus_subcommand :
    writeDataStatus status >>> 24 = 5 := by
  ext position bound
  simp only [writeDataStatus]
  interval_cases position <;> simp

theorem writeDataStatus_status (small : status.toNat ≤ 1) :
    (writeDataStatus status).setWidth 8 = status := by
  rcases byte_eq_zero_or_one small with rfl | rfl
  · decide
  · decide

end Words

/-! ## Firmware that keeps the values -/

section Contracts

variable {σ : Type} (firmware : Firmware σ) (interface : ClevoInterface)
  (holds : σ → Flexicharger)

/-- The object a command with an integer argument returns. -/
def evaluation (cmd : U8) (arg : U32) (state : σ) :
    Option AcpiObject × σ :=
  match interface with
  | .wmi =>
      match firmware (.wmiEvaluateMethod (cmd.setWidth 32) arg) state with
      | (.failure, after) => (none, after)
      | (.success object, after) => (object, after)
  | .acpi =>
      firmware
        (.acpiEvaluateDsm (cmd.setWidth 64) (.integer (arg.setWidth 64)))
        state

/-- The requests that reach the firmware. -/
def ClevoRequest.evaluates : ClevoRequest → Bool
  | .wmiEvaluateMethod _ _ | .acpiEvaluateDsm _ _ => true
  | _ => false

/-- The interface can be called, and only a call can set anything. -/
structure Callable : Prop where
  driverData : interface = .acpi →
    ∀ state, (firmware .activeDriverData state).1 = true
  deviceHandle : interface = .acpi →
    ∀ state, (firmware .acpiDeviceHandle state).1 = true
  keepsUncalled : ∀ (request : ClevoRequest) state,
    request.evaluates = false →
      holds (firmware request state).2 = holds state

/-- The status is on or off.  The command of the other protocol is not
answered with values. -/
structure LegacyFirmware : Prop
    extends Callable firmware interface holds where
  onOrOff : ∀ state, (holds state).status.toNat ≤ 1
  keeps : ∀ cmd arg state, cmd ≠ 0x76 →
    holds (evaluation firmware interface cmd arg state).2 = holds state
  read : ∀ state, ∃ value : U64,
    (evaluation firmware interface 0x77 0 state).1 = some (.integer value) ∧
      value.setWidth 32 = legacyWord (holds state)
  setThresholds : ∀ (arg : U32) state, arg >>> 24 = 6 →
    (∃ value, (evaluation firmware interface 0x76 arg state).1 =
      some (.integer value)) ∧
    holds (evaluation firmware interface 0x76 arg state).2 =
      { holds state with
        start := arg.setWidth 8, stop := (arg >>> 8).setWidth 8 }
  setStatus : ∀ (arg : U32) state, arg >>> 24 = 5 →
    (arg.setWidth 8).toNat ≤ 1 →
    (∃ value, (evaluation firmware interface 0x76 arg state).1 =
      some (.integer value)) ∧
    holds (evaluation firmware interface 0x76 arg state).2 =
      { holds state with status := arg.setWidth 8 }
  withoutCc4 : ∀ state status start stop rest,
    (evaluation firmware interface 0x04 0x1e state).1 =
      some (.buffer (status :: start :: stop :: rest)) →
    stop = 0 ∧ start = 0

/-- An integer argument sets nothing. -/
structure Cc4Firmware : Prop extends Callable firmware .acpi holds where
  thresholdsNotZero : ∀ state,
    ¬ ((holds state).stop = 0 ∧ (holds state).start = 0)
  keeps : ∀ cmd arg state,
    holds (evaluation firmware .acpi cmd arg state).2 = holds state
  read : ∀ state, ∃ rest,
    (evaluation firmware .acpi 0x04 0x1e state).1 =
      some (.buffer
        ((holds state).status :: (holds state).start ::
          (holds state).stop :: rest))
  set : ∀ state status start stop rest, ¬ (stop = 0 ∧ start = 0) →
    (∃ object,
      (firmware
        (.acpiEvaluateDsm 0x04
          (.buffer (0x1f :: status :: start :: stop :: rest))) state).1 =
        some object) ∧
    holds
      (firmware
        (.acpiEvaluateDsm 0x04
          (.buffer (0x1f :: status :: start :: stop :: rest))) state).2 =
      ⟨start, stop, status⟩

end Contracts

/-! ## Calls -/

section Calls

variable {σ : Type} {firmware : Firmware σ} {interface : ClevoInterface}
  {holds : σ → Flexicharger}

/-- A call asks the firmware once, in a state with the same values. -/
theorem Callable.run_clevoEvaluateMethod2
    (callable : Callable firmware interface holds)
    (cmd : U8) (arg : U32) (state : σ) :
    ∃ reached, holds reached = holds state ∧
      ((clevoEvaluateMethod2 (some interface) cmd arg true).run firmware
        state).2 = (evaluation firmware interface cmd arg reached).2 ∧
      match (evaluation firmware interface cmd arg reached).1 with
      | some object =>
          ((clevoEvaluateMethod2 (some interface) cmd arg true).run firmware
            state).1 = ⟨0, some object⟩
      | none =>
          ((clevoEvaluateMethod2 (some interface) cmd arg true).run firmware
            state).1.status ≠ 0 := by
  cases interface with
  | wmi =>
      refine ⟨state, rfl, ?_⟩
      simp only [clevoEvaluateMethod2, ClevoInterface.methodCall,
        clevoWmiInterfaceMethodCall, clevoWmiEvaluate, evaluation,
        Program.run_bind, run_wmiEvaluateMethod]
      rcases firmware (.wmiEvaluateMethod (cmd.setWidth 32) arg) state with
        ⟨_ | _ | object, after⟩ <;> simp
  | acpi =>
      have present := callable.driverData rfl state
      have handle := callable.deviceHandle rfl
        (firmware .activeDriverData state).2
      have valid : guidParse clevoAcpiDsmUuid = 0 := by decide
      refine
        ⟨(firmware .acpiDeviceHandle
          (firmware .activeDriverData state).2).2, ?_, ?_⟩
      · rw [callable.keepsUncalled .acpiDeviceHandle _ rfl,
          callable.keepsUncalled .activeDriverData _ rfl]
      · simp only [clevoEvaluateMethod2, ClevoInterface.methodCall,
          clevoAcpiInterfaceMethodCall, clevoAcpiEvaluate,
          clevoAcpiEvaluateDsm, evaluation, Program.run_bind,
          run_activeDriverData, present, if_true, valid, lt_irrefl,
          if_false, run_acpiDeviceHandle, handle, Bool.true_eq_false,
          run_acpiEvaluateDsm]
        rcases firmware
            (.acpiEvaluateDsm (cmd.setWidth 64)
              (.integer (arg.setWidth 64)))
            (firmware .acpiDeviceHandle
              (firmware .activeDriverData state).2).2 with
          ⟨_ | object, after⟩ <;> simp

/-- A command that is answered with an integer. -/
theorem Callable.run_clevoEvaluateMethod
    (callable : Callable firmware interface holds)
    (cmd : U8) (arg : U32) (after : Flexicharger) (expected : U32 → Prop)
    {before : Flexicharger}
    (answers : ∀ reached, holds reached = before →
      (∃ value : U64,
        (evaluation firmware interface cmd arg reached).1 =
          some (.integer value) ∧ expected (value.setWidth 32)) ∧
      holds (evaluation firmware interface cmd arg reached).2 = after)
    {state : σ} (held : holds state = before) :
    ∃ word, expected word ∧
      ((clevoEvaluateMethod (some interface) cmd arg).run firmware
        state).1 = (0, some word) ∧
      holds
        ((clevoEvaluateMethod (some interface) cmd arg).run firmware
          state).2 = after := by
  obtain ⟨reached, same, ends, returned⟩ :=
    callable.run_clevoEvaluateMethod2 cmd arg state
  obtain ⟨⟨value, answer, isExpected⟩, holdsAfter⟩ :=
    answers reached (same.trans held)
  simp only [answer] at returned
  refine ⟨value.setWidth 32, isExpected, ?_⟩
  simp only [clevoEvaluateMethod, Program.run_bind, returned, ne_eq,
    not_true_eq_false, if_false, readObject, Program.run_pure, ends,
    true_and]
  have freed :=
    callable.keepsUncalled (.acpiFree (some (.integer value)))
      (evaluation firmware interface cmd arg reached).2 rfl
  exact freed.trans holdsAfter

theorem Callable.holds_clevoEvaluateMethod2
    (callable : Callable firmware interface holds) {cmd : U8} {arg : U32}
    (keeps : ∀ reached,
      holds (evaluation firmware interface cmd arg reached).2 =
        holds reached) (state : σ) :
    holds
      ((clevoEvaluateMethod2 (some interface) cmd arg true).run firmware
        state).2 = holds state := by
  obtain ⟨reached, same, ends, -⟩ :=
    callable.run_clevoEvaluateMethod2 cmd arg state
  rw [ends, keeps, same]

theorem Callable.holds_clevoEvaluateMethod
    (callable : Callable firmware interface holds) {cmd : U8} {arg : U32}
    (keeps : ∀ reached,
      holds (evaluation firmware interface cmd arg reached).2 =
        holds reached) (state : σ) :
    holds
      ((clevoEvaluateMethod (some interface) cmd arg).run firmware
        state).2 = holds state := by
  have called := callable.holds_clevoEvaluateMethod2 keeps state
  simp only [clevoEvaluateMethod, Program.run_bind]
  generalize (clevoEvaluateMethod2 (some interface) cmd arg true).run
    firmware state = reply at called ⊢
  have uncalled := fun request reached =>
    callable.keepsUncalled request reached
  rcases reply with ⟨⟨status, stored⟩, after⟩
  by_cases success : status = 0
  · simp only [success, ne_eq, not_true_eq_false, if_false,
      Program.run_bind]
    have object :
        holds ((readObject stored).run firmware after).2 =
          holds after := by
      cases stored with
      | none => exact uncalled .strayObject after rfl
      | some object => rfl
    split <;>
      exact
        ((uncalled (.acpiFree stored) _ rfl).trans object).trans called
  · rw [if_pos success]
    exact called

/-- What the read command of the other protocol makes of an object. -/
def cc4Values : AcpiObject → Except Int Flexicharger
  | .buffer (status :: start :: stop :: _) =>
      if stop = 0 ∧ start = 0 then .error (-enodev)
      else .ok ⟨start, stop, status⟩
  | .buffer _ | .integer _ | .other => .error (-eio)

theorem Callable.run_clevoCc4FlexichargerRead
    (callable : Callable firmware interface holds)
    (keeps : ∀ reached,
      holds (evaluation firmware interface 0x04 0x1e reached).2 =
        holds reached) (state : σ) :
    ∃ reached, holds reached = holds state ∧
      ((clevoCc4FlexichargerRead (some interface)).run firmware state).1 =
        (evaluation firmware interface 0x04 0x1e reached).1.elim
          (.error (-eio)) cc4Values ∧
      holds
        ((clevoCc4FlexichargerRead (some interface)).run firmware
          state).2 = holds state := by
  have called := callable.holds_clevoEvaluateMethod2 keeps state
  obtain ⟨reached, same, -, returned⟩ :=
    callable.run_clevoEvaluateMethod2 0x04 0x1e state
  have freed := fun object after =>
    callable.keepsUncalled (.acpiFree object) after rfl
  refine ⟨reached, same, ?_⟩
  simp only [clevoCc4FlexichargerRead, Program.run_bind]
  cases answer : (evaluation firmware interface 0x04 0x1e reached).1 with
  | none =>
      simp only [answer] at returned
      rw [if_pos returned]
      exact ⟨rfl, called⟩
  | some object =>
      simp only [answer] at returned
      simp only [returned, ne_eq, not_true_eq_false, if_false, readObject,
        Option.elim_some]
      rcases object with value | (_ | ⟨status, _ | ⟨start, _ | ⟨stop, rest⟩⟩⟩)
        | _
      case buffer.cons.cons.cons =>
        simp only [Program.run_pure, Program.run_bind, cc4Values]
        split <;> exact ⟨rfl, (freed _ _).trans called⟩
      all_goals exact ⟨rfl, (freed _ _).trans called⟩

end Calls

/-! ## Legacy protocol -/

section Legacy

variable {σ : Type} {firmware : Firmware σ} {interface : ClevoInterface}
  {holds : σ → Flexicharger}

namespace LegacyFirmware

variable (legacy : LegacyFirmware firmware interface holds) (state : σ)

include legacy

theorem run_read :
    ((clevoEvaluateMethod (some interface) 0x77 0).run firmware state).1 =
        (0, some (legacyWord (holds state))) ∧
      holds
        ((clevoEvaluateMethod (some interface) 0x77 0).run firmware
          state).2 = holds state := by
  obtain ⟨_, rfl, answer, same⟩ :=
    legacy.run_clevoEvaluateMethod 0x77 0 (holds state)
      (· = legacyWord (holds state))
      (fun reached same => by
        obtain ⟨value, answer, word⟩ := legacy.read reached
        refine ⟨⟨value, answer, ?_⟩, ?_⟩
        · rw [word, same]
        · rw [legacy.keeps _ _ _ (by decide), same]) rfl
  exact ⟨answer, same⟩

theorem run_writeThresholds (start stop : U8) :
    ∃ word,
      ((clevoEvaluateMethod (some interface) 0x76
        (writeDataThresholds start stop)).run firmware state).1 =
          (0, some word) ∧
      holds
        ((clevoEvaluateMethod (some interface) 0x76
          (writeDataThresholds start stop)).run firmware state).2 =
        ⟨start, stop, (holds state).status⟩ := by
  obtain ⟨word, -, answer, set⟩ :=
    legacy.run_clevoEvaluateMethod 0x76 (writeDataThresholds start stop)
      ⟨start, stop, (holds state).status⟩ (fun _ => True)
      (fun reached same => by
        obtain ⟨⟨value, answer⟩, set⟩ :=
          legacy.setThresholds (writeDataThresholds start stop) reached
            (writeDataThresholds_subcommand start stop)
        rw [writeDataThresholds_start, writeDataThresholds_stop] at set
        exact ⟨⟨value, answer, trivial⟩, by rw [set, same]⟩) rfl
  exact ⟨word, answer, set⟩

theorem run_writeStatus {status : U8} (small : status.toNat ≤ 1) :
    ∃ word,
      ((clevoEvaluateMethod (some interface) 0x76
        (writeDataStatus status)).run firmware state).1 = (0, some word) ∧
      holds
        ((clevoEvaluateMethod (some interface) 0x76
          (writeDataStatus status)).run firmware state).2 =
        { holds state with status := status } := by
  obtain ⟨word, -, answer, set⟩ :=
    legacy.run_clevoEvaluateMethod 0x76 (writeDataStatus status)
      { holds state with status := status } (fun _ => True)
      (fun reached same => by
        have subcommand := writeDataStatus_subcommand status
        have byte := writeDataStatus_status status small
        obtain ⟨⟨value, answer⟩, set⟩ :=
          legacy.setStatus (writeDataStatus status) reached subcommand
            (by rwa [byte])
        rw [byte] at set
        exact ⟨⟨value, answer, trivial⟩, by rw [set, same]⟩) rfl
  exact ⟨word, answer, set⟩

theorem run_clevoLegacyFlexichargerRead :
    ((clevoLegacyFlexichargerRead (some interface)).run firmware state).1 =
        .ok (holds state) ∧
      holds
        ((clevoLegacyFlexichargerRead (some interface)).run firmware
          state).2 = holds state := by
  obtain ⟨answer, same⟩ := legacy.run_read state
  simp only [clevoLegacyFlexichargerRead, Program.run_bind, answer, ne_eq,
    not_true_eq_false, if_false, Option.getD_some, Program.run_pure,
    legacyWord_start, legacyWord_stop,
    legacyWord_status _ (legacy.onOrOff state)]
  exact ⟨trivial, same⟩

theorem run_clevoLegacyFlexichargerWrite
    (paramStart paramEnd paramStatus : Option U8)
    (small : ∀ status ∈ paramStatus, status.toNat ≤ 1) :
    ((clevoLegacyFlexichargerWrite (some interface) paramStart paramEnd
        paramStatus).run firmware state).1 = 0 ∧
      holds
        ((clevoLegacyFlexichargerWrite (some interface) paramStart paramEnd
          paramStatus).run firmware state).2 =
        { start := paramStart.getD (holds state).start
          stop := paramEnd.getD (holds state).stop
          status := paramStatus.getD (holds state).status } := by
  obtain ⟨read, same⟩ := legacy.run_clevoLegacyFlexichargerRead state
  have smallStatus :
      (paramStatus.getD (holds state).status).toNat ≤ 1 := by
    cases paramStatus with
    | none => exact legacy.onOrOff state
    | some status => exact small status rfl
  simp only [clevoLegacyFlexichargerWrite, Program.run_bind, read]
  obtain ⟨_, thresholds, afterThresholds⟩ :=
    legacy.run_writeThresholds
      ((clevoLegacyFlexichargerRead (some interface)).run firmware state).2
      (paramStart.getD (holds state).start)
      (paramEnd.getD (holds state).stop)
  simp only [thresholds, ne_eq, not_true_eq_false, if_false,
    Program.run_bind]
  obtain ⟨_, status, afterStatus⟩ :=
    legacy.run_writeStatus
      ((clevoEvaluateMethod (some interface) 0x76
        (writeDataThresholds (paramStart.getD (holds state).start)
          (paramEnd.getD (holds state).stop))).run firmware
        ((clevoLegacyFlexichargerRead (some interface)).run firmware
          state).2).2 smallStatus
  simp only [status, not_true_eq_false, if_false, Program.run_pure,
    afterStatus, afterThresholds, true_and]

theorem run_clevoHasCc4Flexicharger :
    ((clevoHasCc4Flexicharger (some interface)).run firmware state).1 =
        false ∧
      holds
        ((clevoHasCc4Flexicharger (some interface)).run firmware state).2 =
        holds state := by
  obtain ⟨reached, same, read, keeps⟩ :=
    legacy.run_clevoCc4FlexichargerRead
      (fun reached => legacy.keeps _ _ reached (by decide)) state
  have refused : ∃ result,
      ((clevoCc4FlexichargerRead (some interface)).run firmware state).1 =
        .error result := by
    rw [read]
    cases answer : (evaluation firmware interface 0x04 0x1e reached).1 with
    | none => exact ⟨_, rfl⟩
    | some object =>
        rcases object with
          value | (_ | ⟨status, _ | ⟨start, _ | ⟨stop, rest⟩⟩⟩) | _
        case buffer.cons.cons.cons =>
          have unset := legacy.withoutCc4 _ _ _ _ _ answer
          exact ⟨_, if_pos unset⟩
        all_goals exact ⟨_, rfl⟩
  obtain ⟨result, refused⟩ := refused
  simp only [clevoHasCc4Flexicharger, Program.run_bind, refused,
    Program.run_pure, true_and]
  exact keeps

theorem run_clevoHasLegacyFlexicharger (dmi : Dmi) :
    holds
      ((clevoHasLegacyFlexicharger (some interface) dmi).run firmware
        state).2 = holds state := by
  simp only [clevoHasLegacyFlexicharger]
  split
  · rfl
  · obtain ⟨read, same⟩ := legacy.run_read state
    simp only [Program.run_bind, read, ne_eq, not_true_eq_false, if_false,
      Option.getD_some, legacyWord_writtenBack, Program.run_pure]
    obtain ⟨_, -, set⟩ :=
      legacy.run_writeThresholds
        ((clevoEvaluateMethod (some interface) 0x77 0).run firmware state).2
        (holds state).start (holds state).stop
    rw [set, same]

end LegacyFirmware

end Legacy

/-! ## The other protocol -/

section Cc4

variable {σ : Type} {firmware : Firmware σ} {holds : σ → Flexicharger}

/-- A command with a buffer that sets something. -/
theorem Callable.run_clevoEvaluateMethodPkgbuf
    (callable : Callable firmware .acpi holds)
    (cmd : U8) {arg : List U8} {after : Flexicharger}
    (answers : ∀ reached,
      (∃ object,
        (firmware (.acpiEvaluateDsm (cmd.setWidth 64) (.buffer arg))
          reached).1 = some object) ∧
      holds
        (firmware (.acpiEvaluateDsm (cmd.setWidth 64) (.buffer arg))
          reached).2 = after) (state : σ) :
    ((clevoEvaluateMethodPkgbuf (some .acpi) cmd arg true).run firmware
        state).1.status = 0 ∧
      holds
        ((clevoEvaluateMethodPkgbuf (some .acpi) cmd arg true).run firmware
          state).2 = after := by
  have present := callable.driverData rfl state
  have handle := callable.deviceHandle rfl
    (firmware .activeDriverData state).2
  have valid : guidParse clevoAcpiDsmUuid = 0 := by decide
  obtain ⟨⟨object, answer⟩, set⟩ :=
    answers
      (firmware .acpiDeviceHandle (firmware .activeDriverData state).2).2
  simp only [clevoEvaluateMethodPkgbuf, ClevoInterface.methodCallPkgbuf,
    clevoAcpiInterfaceMethodCallPkgbuf, clevoAcpiEvaluatePkgbuf,
    clevoAcpiEvaluateDsm, Program.run_bind, run_activeDriverData, present,
    if_true, valid, lt_irrefl, if_false, run_acpiDeviceHandle, handle,
    Bool.true_eq_false, run_acpiEvaluateDsm, answer, Program.run_pure]
  exact ⟨trivial, set⟩

namespace Cc4Firmware

variable (cc4 : Cc4Firmware firmware holds) (state : σ)

include cc4

theorem run_clevoCc4FlexichargerRead :
    ((clevoCc4FlexichargerRead (some .acpi)).run firmware state).1 =
        .ok (holds state) ∧
      holds
        ((clevoCc4FlexichargerRead (some .acpi)).run firmware state).2 =
        holds state := by
  obtain ⟨reached, same, read, keeps⟩ :=
    cc4.toCallable.run_clevoCc4FlexichargerRead (cc4.keeps _ _) state
  obtain ⟨rest, answer⟩ := cc4.read reached
  refine ⟨?_, keeps⟩
  rw [read, answer, same]
  exact if_neg (cc4.thresholdsNotZero state)

theorem run_clevoCc4FlexichargerWrite
    (paramStart paramEnd paramStatus : Option U8)
    (someThreshold :
      ¬ (paramEnd.getD (holds state).stop = 0 ∧
        paramStart.getD (holds state).start = 0)) :
    ((clevoCc4FlexichargerWrite (some .acpi) paramStart paramEnd
        paramStatus).run firmware state).1 = 0 ∧
      holds
        ((clevoCc4FlexichargerWrite (some .acpi) paramStart paramEnd
          paramStatus).run firmware state).2 =
        { start := paramStart.getD (holds state).start
          stop := paramEnd.getD (holds state).stop
          status := paramStatus.getD (holds state).status } := by
  obtain ⟨read, same⟩ := cc4.run_clevoCc4FlexichargerRead state
  obtain ⟨success, set⟩ :=
    cc4.run_clevoEvaluateMethodPkgbuf 0x04
      (fun reached =>
        cc4.set reached (paramStatus.getD (holds state).status) _ _
          (List.replicate 251 0) someThreshold)
      ((clevoCc4FlexichargerRead (some .acpi)).run firmware state).2
  simp only [clevoCc4FlexichargerWrite, Program.run_bind, read]
  simp only [flexichargerArgs, List.cons_append, List.nil_append, success,
    ne_eq, not_true_eq_false, if_false, Program.run_bind, Program.run_pure,
    true_and]
  exact (cc4.keepsUncalled (.acpiFree _) _ rfl).trans set

theorem run_clevoHasCc4Flexicharger :
    ((clevoHasCc4Flexicharger (some .acpi)).run firmware state).1 =
        true ∧
      holds
        ((clevoHasCc4Flexicharger (some .acpi)).run firmware state).2 =
        holds state := by
  obtain ⟨read, same⟩ := cc4.run_clevoCc4FlexichargerRead state
  simp only [clevoHasCc4Flexicharger, Program.run_bind, read,
    Program.run_pure, true_and]
  exact same

theorem run_clevoHasLegacyFlexicharger (dmi : Dmi) :
    holds
      ((clevoHasLegacyFlexicharger (some .acpi) dmi).run firmware
        state).2 = holds state := by
  have keeps := fun cmd arg reached =>
    cc4.holds_clevoEvaluateMethod (cc4.keeps cmd arg) reached
  simp only [clevoHasLegacyFlexicharger]
  split
  · rfl
  · rw [Program.run_bind]
    split
    · exact keeps 0x77 0 state
    · rw [Program.run_bind, Program.run_pure, keeps, keeps]

end Cc4Firmware

end Cc4

/-! ## Either protocol -/

section Values

variable {σ : Type} {firmware : Firmware σ} {interface : ClevoInterface}
  {holds : σ → Flexicharger}

/-- What reading, writing and detecting do, whichever protocol it is. -/
structure KeepsValues (firmware : Firmware σ) (interface : ClevoInterface)
    (holds : σ → Flexicharger) : Prop where
  read : ∀ state,
    ((clevoFlexichargerRead (some interface)).run firmware state).1 =
        .ok (holds state) ∧
      holds
        ((clevoFlexichargerRead (some interface)).run firmware state).2 =
        holds state
  write : ∀ state paramStart paramEnd paramStatus,
    (∀ status ∈ paramStatus, BitVec.toNat status ≤ 1) →
    (∀ start ∈ paramStart, start ≠ 0) → (∀ stop ∈ paramEnd, stop ≠ 0) →
    ((clevoFlexichargerWrite (some interface) paramStart paramEnd
        paramStatus).run firmware state).1 = 0 ∧
      holds
        ((clevoFlexichargerWrite (some interface) paramStart paramEnd
          paramStatus).run firmware state).2 =
        { start := paramStart.getD (holds state).start
          stop := paramEnd.getD (holds state).stop
          status := paramStatus.getD (holds state).status }
  detect : ∀ state dmi,
    holds
      ((clevoHasLegacyFlexicharger (some interface) dmi).run firmware
        state).2 = holds state

theorem LegacyFirmware.keepsValues
    (legacy : LegacyFirmware firmware interface holds) :
    KeepsValues firmware interface holds := by
  refine ⟨fun state => ?_, fun state paramStart paramEnd paramStatus => ?_,
    legacy.run_clevoHasLegacyFlexicharger⟩
  · obtain ⟨without, same⟩ := legacy.run_clevoHasCc4Flexicharger state
    simp only [clevoFlexichargerRead, Program.run_bind, without,
      Bool.false_eq_true, if_false]
    rw [← same]
    exact legacy.run_clevoLegacyFlexichargerRead _
  · intro small _ _
    obtain ⟨without, same⟩ := legacy.run_clevoHasCc4Flexicharger state
    simp only [clevoFlexichargerWrite, Program.run_bind, without,
      Bool.false_eq_true, if_false]
    rw [← same]
    exact
      legacy.run_clevoLegacyFlexichargerWrite _ paramStart paramEnd
        paramStatus small

/-- A parameter that is not 0 and values that are not both 0. -/
theorem someThreshold_getD {values : Flexicharger}
    {paramStart paramEnd : Option U8}
    (notZero : ¬ (values.stop = 0 ∧ values.start = 0))
    (start : ∀ start ∈ paramStart, start ≠ 0)
    (stop : ∀ stop ∈ paramEnd, stop ≠ 0) :
    ¬ (paramEnd.getD values.stop = 0 ∧
      paramStart.getD values.start = 0) := by
  rintro ⟨stopZero, startZero⟩
  cases paramEnd with
  | some value => exact stop value rfl stopZero
  | none =>
      cases paramStart with
      | some value => exact start value rfl startZero
      | none => exact notZero ⟨stopZero, startZero⟩

theorem Cc4Firmware.keepsValues (cc4 : Cc4Firmware firmware holds) :
    KeepsValues firmware .acpi holds := by
  refine ⟨fun state => ?_, fun state paramStart paramEnd paramStatus => ?_,
    cc4.run_clevoHasLegacyFlexicharger⟩
  · obtain ⟨has, same⟩ := cc4.run_clevoHasCc4Flexicharger state
    simp only [clevoFlexichargerRead, Program.run_bind, has, if_true]
    rw [← same]
    exact cc4.run_clevoCc4FlexichargerRead _
  · intro _ start stop
    obtain ⟨has, same⟩ := cc4.run_clevoHasCc4Flexicharger state
    simp only [clevoFlexichargerWrite, Program.run_bind, has, if_true]
    rw [← same]
    have notZero :=
      someThreshold_getD
        (cc4.thresholdsNotZero
          ((clevoHasCc4Flexicharger (some .acpi)).run firmware state).2)
        start stop
    exact
      cc4.run_clevoCc4FlexichargerWrite _ paramStart paramEnd paramStatus
        notZero

end Values

end TuxedoDrivers.Clevo
