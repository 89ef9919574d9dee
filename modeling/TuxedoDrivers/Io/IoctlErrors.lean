import TuxedoDrivers.Io.IoctlDriver
import TuxedoDrivers.Io.IoctlRuns

/-!
# Errors of the ioctl interface

What a command does to the hardware and what it reports: the operations that
it calls, with which argument and in which state, and its result.  The
dispatchers throw the status of every operation and of every copy from user
space away, and the one error that they return themselves loses its sign.
The main result says when a command nevertheless keeps the contract of the
interface.
-/

namespace TuxedoDrivers.Io.Ioctl

open Interaction Uniwill

/-! ## Copies and operations -/

section Operations

variable {σ : Type} (world : IoWorld σ) (dmi : Dmi) (arg : U64)
  (state : IoStatics × σ)

/-- The status that an operation reports, as a signed number. -/
def reportedStatus : Event ioSignature → Option Int
  | ⟨.kernel (.clevoEvaluateMethod _ _), returned⟩ => some returned.report.1
  | ⟨.kernel (.uwSetFan _ _), returned⟩ => some returned.report.toInt
  | ⟨.kernel (.uwSetTdp _ _ _), returned⟩ => some returned.report
  | ⟨.kernel (.uwSetPerformanceProfileV1 _), returned⟩ =>
      some returned.report.toInt
  | ⟨.kernel (.uniwillWriteEcRam _ _), returned⟩ => some returned.report
  | _ => none

def clevoSetCommands : List U8 :=
  [clevoCmdSetFanspeedValue, clevoCmdSetFanspeedAuto, clevoCmdSetWebcamSw,
    clevoCmdSetFlightmodeSw, clevoCmdSetTouchpadSw, clevoCmdOpt]

/-- The call issues an EC write or a firmware set-command. -/
def setsHardware : Event ioSignature → Bool
  | ⟨.kernel (.clevoEvaluateMethod cmd _), returned⟩ =>
      returned.issued && clevoSetCommands.contains cmd
  | ⟨.kernel (.uwSetFan _ _), returned⟩ => returned.issued
  | ⟨.kernel .uwSetFanAuto, _⟩ => true
  | ⟨.kernel (.uwSetTdp _ _ _), returned⟩ => returned.issued
  | ⟨.kernel (.uwSetPerformanceProfileV1 _), returned⟩ => returned.issued
  | ⟨.kernel (.uniwillWriteEcRam _ _), returned⟩ => returned.issued
  | _ => false

def failedCopy : Event ioSignature → Bool
  | ⟨.kernel (.copyFromUser _), copied⟩ => decide (copied.notCopied ≠ 0)
  | _ => false

/-- A copy from user space, or a call of an operation. -/
def IoRequest.isTransaction : IoRequest → Bool
  | .kernel (.copyFromUser _) => true
  | .kernel (.clevoEvaluateMethod _ _) => true
  | .kernel (.uwSetFan _ _) => true
  | .kernel .uwSetFanAuto => true
  | .kernel (.uwSetTdp _ _ _) => true
  | .kernel (.uwSetPerformanceProfileV1 _) => true
  | .kernel (.uniwillWriteEcRam _ _) => true
  | _ => false

/-- The commands that get an argument from user space. -/
def copiesArgument : IoctlCommand → Bool
  | .wClFanspeed | .wClFanauto | .wClWebcamSw | .wClFlightmodeSw
  | .wClTouchpadSw | .wClPerfProfile | .wUwFanspeed | .wUwFanspeed2
  | .wUwMode | .wUwTdp0 | .wUwTdp1 | .wUwTdp2 | .wUwPerfProf => true
  | _ => false

/-- A call in a state of the kernel. -/
def called (request : IoKernelRequest) (reached : σ) : Event ioSignature :=
  ⟨.kernel request, (world.kernel request reached).1⟩

def argumentCopied : CopyReturn :=
  (world.kernel (.copyFromUser arg) state.2).1

/-- A call after the argument has been copied. -/
def calledWith (request : U32 → IoKernelRequest) : Event ioSignature :=
  called world (request (argumentCopied world arg state).argument)
    (world.kernel (.copyFromUser arg) state.2).2

def webcamGet : IoKernelRequest :=
  .clevoEvaluateMethod clevoCmdGetWebcamSw 0

/-- The second call of `W_CL_WEBCAM_SW`, if the switch has to change. -/
def webcamSet (argument : U32) (current : Option U32) (reached : σ) :
    List (Event ioSignature) :=
  if argument &&& 0x01 ≠ current.getD 0 &&& 0x01 then
    [called world (.clevoEvaluateMethod clevoCmdSetWebcamSw argument) reached]
  else []

theorem eq_of_mem_webcamSet {argument : U32} {current : Option U32}
    {reached : σ} {event : Event ioSignature}
    (member : event ∈ webcamSet world argument current reached) :
    event =
      called world (.clevoEvaluateMethod clevoCmdSetWebcamSw argument)
        reached := by
  unfold webcamSet at member
  split at member
  · exact List.mem_singleton.mp member
  · cases member

/-- The kernel answers `W_CL_WEBCAM_SW` with the present value. -/
def webcamCurrent : webcamGet.Answer × σ :=
  world.kernel webcamGet (world.kernel (.copyFromUser arg) state.2).2

/-- The operations that a command calls. -/
def operations : IoctlCommand → List (Event ioSignature)
  | .rClFaninfo1 => [evaluated clevoCmdGetFaninfo1]
  | .rClFaninfo2 => [evaluated clevoCmdGetFaninfo2]
  | .rClFaninfo3 => [evaluated clevoCmdGetFaninfo3]
  | .rClWebcamSw => [evaluated clevoCmdGetWebcamSw]
  | .rClFlightmodeSw => [evaluated clevoCmdGetFlightmodeSw]
  | .rClTouchpadSw => [evaluated clevoCmdGetTouchpadSw]
  | .wClFanspeed =>
      [evaluatedWith clevoCmdSetFanspeedValue fanspeedArgument]
  | .wClFanauto => [evaluatedWith clevoCmdSetFanspeedAuto id]
  | .wClWebcamSw =>
      (calledWith world arg state fun _ => webcamGet) ::
        webcamSet world (argumentCopied world arg state).argument
          (webcamCurrent world arg state).1.report.2
          (webcamCurrent world arg state).2
  | .wClFlightmodeSw => [evaluatedWith clevoCmdSetFlightmodeSw id]
  | .wClTouchpadSw => [evaluatedWith clevoCmdSetTouchpadSw id]
  | .wClPerfProfile => [evaluatedWith clevoCmdOpt perfProfileArgument]
  | .wUwFanspeed => [fanSet 0]
  | .wUwFanspeed2 => [fanSet 1]
  | .wUwMode =>
      [calledWith world arg state fun argument =>
        .uniwillWriteEcRam 0x0751 (argument.setWidth 8)]
  | .wUwFanauto => [called world .uwSetFanAuto state.2]
  | .wUwTdp0 => [tdpSet 0]
  | .wUwTdp1 => [tdpSet 1]
  | .wUwTdp2 => [tdpSet 2]
  | .wUwPerfProf =>
      [calledWith world arg state .uwSetPerformanceProfileV1]
  | _ => []
where
  evaluated (cmd : U8) : Event ioSignature :=
    called world (.clevoEvaluateMethod cmd 0) state.2
  evaluatedWith (cmd : U8) (toArgument : U32 → U32) : Event ioSignature :=
    calledWith world arg state fun argument =>
      .clevoEvaluateMethod cmd (toArgument argument)
  fanSet (fanSelect : U32) : Event ioSignature :=
    calledWith world arg state fun argument =>
      .uwSetFan fanSelect (argument.setWidth 8)
  tdpSet (tdpIndex : U8) : Event ioSignature :=
    calledWith world arg state fun argument =>
      .uwSetTdp state.1.tdpDefs tdpIndex argument.toInt

/-- The copies and operations of a run. -/
def transactions (program : Handler Int) : List (Event ioSignature) :=
  (program.trace (ioEnvironment world) state).filter fun event =>
    event.request.isTransaction

theorem mem_transactions {program : Handler Int}
    {event : Event ioSignature} :
    event ∈ transactions world state program ↔
      event ∈ program.trace (ioEnvironment world) state ∧
        event.request.isTransaction = true :=
  List.mem_filter

/-- Neither a copy from user space nor an operation. -/
def Harmless (request : IoRequest) : Prop :=
  request.isTransaction = false

theorem transactions_eq_nil {program : Handler Int}
    (asks : program.Asks Harmless) :
    transactions world state program = [] := by
  refine List.filter_eq_nil_iff.mpr fun event member => ?_
  have harmless : event.request.isTransaction = false :=
    asks.of_mem_trace member
  rw [harmless]
  exact Bool.false_ne_true

theorem moduleCommand_harmless (command : IoctlCommand) :
    (moduleCommand dmi arg command).Asks Harmless := by
  cases command
  case rHwcheckUw =>
    refine Program.Asks.bind ?_ fun result => ?_
    · refine Program.Asks.bind ⟨rfl, fun _ => trivial⟩ fun active => ?_
      refine Program.Asks.ite (fun _ => ?_) fun _ => trivial
      refine Program.Asks.bind ?_ fun _ => trivial
      have set (update : IoStatics → IoStatics) :
          (setStatics update).Asks Harmless :=
        ⟨rfl, fun _ => trivial⟩
      refine Program.Asks.bind ⟨rfl, fun _ => trivial⟩ fun _ => ?_
      refine (set _).bind fun _ => ?_
      refine Program.Asks.bind
        ⟨rfl, fun _ => ⟨rfl, fun _ => trivial⟩⟩ fun features => ?_
      exact (set _).bind fun _ => set _
    · exact ⟨rfl, fun _ => ⟨rfl, fun _ => trivial⟩⟩
  case rHwcheckCl =>
    exact ⟨rfl, fun _ => ⟨rfl, fun _ => ⟨rfl, fun _ => trivial⟩⟩⟩
  case rModVersion =>
    exact ⟨rfl, fun _ => trivial⟩
  all_goals trivial

theorem readTdp_harmless (tdpIndex : U8) :
    (readTdp tdpIndex arg).Asks Harmless := by
  refine Program.Asks.bind ?_ fun result => ⟨rfl, fun _ => trivial⟩
  refine ⟨rfl, fun statics => ?_⟩
  refine Program.Asks.ite (fun _ => trivial) fun _ => ?_
  refine ⟨rfl, fun tdpData => ?_⟩
  refine Program.Asks.ite (fun _ => trivial) fun _ => ?_
  refine Program.Asks.ite (fun _ => ?_) fun _ => trivial
  refine ⟨rfl, fun statics => ⟨rfl, fun features => ?_⟩⟩
  exact Program.Asks.ite (fun _ => trivial) fun _ => trivial

theorem trace_writeWebcamSw :
    (writeWebcamSw arg).trace (ioEnvironment world) state =
      called world (.copyFromUser arg) state.2 ::
        operations world arg state .wClWebcamSw := by
  unfold operations webcamSet
  rw [writeWebcamSw, Program.trace_bind, Program.trace_bind,
    Program.trace_ite]
  rfl

theorem writeWebcamSw_asks :
    (writeWebcamSw arg).Asks fun request : IoRequest =>
      request.isTransaction = true := by
  refine ⟨rfl, fun copied => ⟨rfl, fun current => ?_⟩⟩
  exact Program.Asks.ite (fun _ => ⟨rfl, fun _ => trivial⟩) fun _ => trivial

/-- The three dispatchers of a permitted `W_CL_WEBCAM_SW`. -/
theorem trace_permittedWebcam (permitted : webcamWriteRefused dmi = false) :
    (fopIoctl dmi .wClWebcamSw arg).trace (ioEnvironment world) state =
      (writeWebcamSw arg).trace (ioEnvironment world) state := by
  have success : throughU32 0 = 0 := by
    decide
  simp [fopIoctl, moduleCommand, clevoIoctlInterface, clevoReadCommand,
    clevoWriteCommand, permitted, success, uniwillIoctlInterface,
    uniwillReadCommand, uniwillWriteCommand]

theorem transactions_fopIoctl {command : IoctlCommand}
    (permitted : refused dmi command = false) :
    transactions world state (fopIoctl dmi command arg) =
      (if copiesArgument command = true then
        [called world (.copyFromUser arg) state.2] else []) ++
        operations world arg state command := by
  cases command
  case rClWebcamSw =>
    have isPermitted : ¬ webcamReadRefused dmi = true := by
      rw [Bool.not_eq_true]
      exact permitted
    unfold fopIoctl clevoIoctlInterface clevoReadCommand
    rw [if_neg isPermitted]
    rfl
  case wClWebcamSw =>
    rw [transactions, trace_permittedWebcam world dmi arg state permitted,
      List.filter_eq_self.mpr fun event member =>
        (writeWebcamSw_asks arg).of_mem_trace member,
      trace_writeWebcamSw]
    rfl
  case rHwcheckUw =>
    exact
      transactions_eq_nil world state
        (fopIoctl_asks dmi arg (moduleCommand_harmless ..) trivial trivial)
  case rUwTdp0 | rUwTdp1 | rUwTdp2 =>
    exact
      transactions_eq_nil world state
        (fopIoctl_asks dmi arg trivial trivial
          (Program.Asks.bind (readTdp_harmless ..) fun _ => trivial))
  all_goals rfl

end Operations

/-! ## The contract -/

section Contract

variable {σ : Type} (world : IoWorld σ) (dmi : Dmi)
  (command : IoctlCommand) (arg : U64) (state : IoStatics × σ)

def ioctlResult : Int :=
  ((fopIoctl dmi command arg).run (ioEnvironment world) state).1

def ioctlTrace : List (Event ioSignature) :=
  (fopIoctl dmi command arg).trace (ioEnvironment world) state

/-- What `clevo_ioctl_interface` returns to `fop_ioctl`. -/
def clevoStatus : Int :=
  ((moduleCommand dmi arg command >>= fun _ =>
    clevoIoctlInterface dmi command arg).run (ioEnvironment world) state).1

/-- What `uniwill_ioctl_interface` returns if it is reached. -/
def uniwillStatus : Int :=
  ((moduleCommand dmi arg command >>= fun _ => do
    let _ ← clevoIoctlInterface dmi command arg
    uniwillIoctlInterface command arg).run (ioEnvironment world) state).1

/-- Errors reach user space, bad user pointers do not reach the hardware, and
nothing positive is returned. -/
structure IoctlContract : Prop where
  operationErrors : ∀ event ∈ ioctlTrace world dmi command arg state,
    ∀ status, reportedStatus event = some status → status < 0 →
      ioctlResult world dmi command arg state = status
  clevoErrors : clevoStatus world dmi command arg state < 0 →
    ioctlResult world dmi command arg state =
      clevoStatus world dmi command arg state
  uniwillErrors : uniwillStatus world dmi command arg state < 0 →
    ioctlResult world dmi command arg state =
      uniwillStatus world dmi command arg state
  badPointers :
    (∃ event ∈ ioctlTrace world dmi command arg state,
      failedCopy event = true) →
    ∀ event ∈ ioctlTrace world dmi command arg state,
      setsHardware event = false
  notPositive : ioctlResult world dmi command arg state ≤ 0

/-- No operation of the command fails. -/
def NoErrors : Prop :=
  ∀ event ∈ operations world arg state command,
    ∀ status, reportedStatus event = some status → 0 ≤ status

/-- The argument of the command cannot be copied. -/
def CopyFails : Prop :=
  copiesArgument command = true ∧
    (argumentCopied world arg state).notCopied ≠ 0

/-- No operation of the command issues anything. -/
def Silent : Prop :=
  ∀ event ∈ operations world arg state command, setsHardware event = false

variable {world dmi command arg state}

theorem mem_operations (permitted : refused dmi command = false)
    {event : Event ioSignature}
    (member : event ∈ operations world arg state command) :
    event ∈ ioctlTrace world dmi command arg state := by
  have transaction :
      event ∈ transactions world state (fopIoctl dmi command arg) := by
    rw [transactions_fopIoctl world dmi arg state permitted]
    exact List.mem_append_right _ member
  exact ((mem_transactions world state).mp transaction).1

theorem isTransaction_of_reportedStatus {event : Event ioSignature}
    {status : Int} (reports : reportedStatus event = some status) :
    event.request.isTransaction = true := by
  unfold reportedStatus at reports
  split at reports <;> first | rfl | cases reports

theorem isTransaction_of_setsHardware {event : Event ioSignature}
    (sets : setsHardware event = true) :
    event.request.isTransaction = true := by
  unfold setsHardware at sets
  split at sets <;> first | rfl | cases sets

theorem isTransaction_of_failedCopy {event : Event ioSignature}
    (fails : failedCopy event = true) :
    event.request.isTransaction = true := by
  unfold failedCopy at fails
  split at fails <;> first | rfl | cases fails

theorem operation_or_copy (permitted : refused dmi command = false)
    {event : Event ioSignature}
    (member : event ∈ ioctlTrace world dmi command arg state)
    (transaction : event.request.isTransaction = true) :
    (copiesArgument command = true ∧
        event = called world (.copyFromUser arg) state.2) ∨
      event ∈ operations world arg state command := by
  have inTransactions :=
    (mem_transactions world state).mpr ⟨member, transaction⟩
  rw [transactions_fopIoctl world dmi arg state permitted] at inTransactions
  rcases List.mem_append.mp inTransactions with copy | operation
  · by_cases copies : copiesArgument command = true
    · rw [if_pos copies] at copy
      exact Or.inl ⟨copies, List.mem_singleton.mp copy⟩
    · rw [if_neg copies] at copy
      cases copy
  · exact Or.inr operation

theorem copy_mem_trace (permitted : refused dmi command = false)
    (copies : copiesArgument command = true) :
    called world (.copyFromUser arg) state.2 ∈
      ioctlTrace world dmi command arg state := by
  have transaction : called world (.copyFromUser arg) state.2 ∈
      transactions world state (fopIoctl dmi command arg) := by
    rw [transactions_fopIoctl world dmi arg state permitted, if_pos copies]
    exact List.mem_append_left _ List.mem_cons_self
  exact ((mem_transactions world state).mp transaction).1

theorem failedCopy_operation {event : Event ioSignature}
    (member : event ∈ operations world arg state command) :
    failedCopy event = false := by
  cases command
  case wClWebcamSw =>
    rcases List.mem_cons.mp member with rfl | set
    · rfl
    · rw [eq_of_mem_webcamSet world set]
      rfl
  all_goals
    first
    | (cases List.mem_singleton.mp member; rfl)
    | cases member

theorem not_ioctlContract_of_refused
    (isRefused : refused dmi command = true) :
    ¬ IoctlContract world dmi command arg state := by
  intro contract
  have positive : ioctlResult world dmi command arg state =
      4294967296 - enodev := by
    rw [ioctlResult, run_fopIoctl, if_pos isRefused]
  have notPositive := contract.notPositive
  rw [positive] at notPositive
  exact absurd notPositive (by decide)

theorem ioctlResult_eq_zero (permitted : refused dmi command = false) :
    ioctlResult world dmi command arg state = 0 := by
  rw [ioctlResult, run_fopIoctl, permitted]
  rfl

theorem clevoStatus_eq_zero (permitted : refused dmi command = false) :
    clevoStatus world dmi command arg state = 0 := by
  rw [clevoStatus, Program.run_bind, run_clevoIoctlInterface, permitted]
  rfl

theorem uniwillStatus_eq_zero :
    uniwillStatus world dmi command arg state = 0 := by
  rw [uniwillStatus, Program.run_bind, Program.run_bind,
    run_uniwillIoctlInterface]

theorem IoctlContract.permitted
    (contract : IoctlContract world dmi command arg state) :
    refused dmi command = false := by
  by_contra isRefused
  exact
    not_ioctlContract_of_refused (Bool.not_eq_false _ ▸ isRefused) contract

theorem IoctlContract.noErrors
    (contract : IoctlContract world dmi command arg state) :
    NoErrors world command arg state := by
  intro event member status reports
  by_contra negative
  have returned :=
    contract.operationErrors event
      (mem_operations contract.permitted member) status reports
      (Int.not_le.mp negative)
  rw [ioctlResult_eq_zero contract.permitted] at returned
  omega

theorem IoctlContract.silent
    (contract : IoctlContract world dmi command arg state)
    (fails : CopyFails world command arg state) :
    Silent world command arg state := by
  intro event member
  have copyFails :
      failedCopy (called world (.copyFromUser arg) state.2) = true :=
    decide_eq_true fails.2
  exact
    contract.badPointers
      ⟨_, copy_mem_trace contract.permitted fails.1, copyFails⟩
      event (mem_operations contract.permitted member)

/-- Nothing is left to report, and there is no bad pointer that an operation
acts on. -/
theorem IoctlContract.of_silent (permitted : refused dmi command = false)
    (noErrors : NoErrors world command arg state)
    (silent : CopyFails world command arg state →
      Silent world command arg state) :
    IoctlContract world dmi command arg state where
  operationErrors := by
    intro event member status reports negative
    have transaction := isTransaction_of_reportedStatus reports
    rcases operation_or_copy permitted member transaction with
      ⟨-, rfl⟩ | operation
    · cases reports
    · have succeeds := noErrors event operation status reports
      omega
  clevoErrors := by
    intro negative
    rw [clevoStatus_eq_zero permitted] at negative
    exact absurd negative (Int.lt_irrefl 0)
  uniwillErrors := by
    intro negative
    rw [uniwillStatus_eq_zero] at negative
    exact absurd negative (Int.lt_irrefl 0)
  badPointers := by
    rintro ⟨copy, copyMember, fails⟩ event member
    -- Only the copy of the argument can fail.
    obtain ⟨copies, rfl⟩ | operation :=
      operation_or_copy permitted copyMember
        (isTransaction_of_failedCopy fails)
    · by_contra sets
      rw [Bool.not_eq_false] at sets
      rcases operation_or_copy permitted member
        (isTransaction_of_setsHardware sets) with ⟨-, rfl⟩ | operation
      · cases sets
      · have nothing :=
          silent ⟨copies, of_decide_eq_true fails⟩ event operation
        rw [nothing] at sets
        cases sets
    · rw [failedCopy_operation operation] at fails
      cases fails
  notPositive := Int.le_of_eq (ioctlResult_eq_zero permitted)

end Contract

/-! ## The commands of both drivers -/

section System

variable {σ : Type} (device : EcDevice σ) (dmi : Dmi)
  (rest : Environment ioKernelSignature (Machine σ))
  (active : σ → Option Clevo.ClevoInterface) (firmware : Clevo.Firmware σ)
  (stray : DeviceFeatures) (command : IoctlCommand) (arg : U64)
  (state : IoStatics × Machine σ)

/-- What `copy_from_user` stores, and the state after it. -/
def afterCopy : CopyReturn × Machine σ :=
  rest (.copyFromUser arg) state.2

/-- What the firmware answers for the switch of the webcam. -/
def webcamValue (platform : σ) : Option U32 :=
  ((Clevo.clevoEvaluateMethod (active platform) clevoCmdGetWebcamSw 0).run
    firmware platform).1.2

/-- The commands that leave the hardware alone although they act on an
argument that was not copied: the webcam has the right value already, or a
fan request has to wait.  All others go ahead. -/
def Unaffected : IoctlCommand → Prop
  | .wClWebcamSw =>
      (afterCopy rest arg state).1.argument &&& 0x01 =
        (webcamValue active firmware (afterCopy rest arg state).2.2).getD 0
          &&& 0x01
  | .wUwFanspeed | .wUwFanspeed2 =>
      FanRequestWaits device (afterCopy rest arg state).2
  | _ => False

/-- The command is not refused, its operations do not fail, and if its
argument cannot be copied then it is one that leaves the hardware alone. -/
structure IoctlConditions : Prop where
  permitted : refused dmi command = false
  noErrors :
    NoErrors (systemWorld device dmi rest active firmware stray) command arg
      state
  unaffected :
    copiesArgument command = true →
      (afterCopy rest arg state).1.notCopied ≠ 0 →
        Unaffected device rest active firmware arg state command

variable {device dmi rest active firmware stray command arg state}

theorem silent_singleton {event : Event ioSignature} :
    (∀ other ∈ [event], setsHardware other = false) ↔
      setsHardware event = false :=
  List.forall_mem_singleton

/-- A set-command of the Clevo firmware that returns no error has been
issued. -/
theorem setsHardware_evaluated {cmd : U8} {argument : U32}
    {machine : Machine σ} {event : Event ioSignature}
    (isCall : event =
      called (systemWorld device dmi rest active firmware stray)
        (.clevoEvaluateMethod cmd argument) machine)
    (isSet : clevoSetCommands.contains cmd = true)
    (succeeds : ∀ status, reportedStatus event = some status →
      0 ≤ status) :
    setsHardware event = true := by
  subst isCall
  have evaluated := evaluates_clevoEvaluateMethod _ (succeeds _ rfl)
  exact Bool.and_eq_true_iff.mpr ⟨evaluated, isSet⟩

/-- A command whose one operation issues something if it does not fail. -/
theorem silent_iff_false {world : IoWorld (Machine σ)}
    {event : Event ioSignature}
    (only : operations world arg state command = [event])
    (noErrors : NoErrors world command arg state)
    (sets : (∀ status, reportedStatus event = some status → 0 ≤ status) →
      setsHardware event = true) :
    Silent world command arg state ↔ False := by
  unfold Silent NoErrors at *
  rw [only] at noErrors ⊢
  rw [silent_singleton, sets (noErrors event List.mem_cons_self)]
  exact iff_of_false Bool.noConfusion id

/-- The switch of the webcam is read, which sets nothing, and set if it has
another value. -/
theorem silent_webcam_iff
    (noErrors :
      NoErrors (systemWorld device dmi rest active firmware stray)
        .wClWebcamSw arg state) :
    Silent (systemWorld device dmi rest active firmware stray) .wClWebcamSw
        arg state ↔
      Unaffected device rest active firmware arg state .wClWebcamSw := by
  let world := systemWorld device dmi rest active firmware stray
  have readsOnly (machine : Machine σ) :
      setsHardware (called world webcamGet machine) = false :=
    Bool.and_false _
  have noErrorsRest :=
    fun event member => noErrors event (List.mem_cons_of_mem _ member)
  change (∀ event ∈ _ :: webcamSet world _ _ _, _) ↔ _
  change ∀ event ∈ webcamSet world _ _ _, _ at noErrorsRest
  rw [List.forall_mem_cons]
  unfold webcamSet at noErrorsRest ⊢
  by_cases differs :
      (argumentCopied world arg state).argument &&& 0x01 ≠
        (webcamCurrent world arg state).1.report.2.getD 0 &&& 0x01
  · rw [if_pos differs] at noErrorsRest ⊢
    refine iff_of_false (fun silent => ?_) differs
    have nothing := silent_singleton.mp silent.2
    have sets :=
      setsHardware_evaluated rfl (by decide)
        (noErrorsRest _ List.mem_cons_self)
    rw [sets] at nothing
    cases nothing
  · rw [if_neg differs]
    exact
      iff_of_true ⟨readsOnly _, fun _ => nofun⟩ (not_not.mp differs)

/-- A fan request, which returns no error, issues something unless it has to
wait. -/
theorem silent_fan_iff {fanIndex : U32} (known : fanIndex = 0 ∨ fanIndex = 1)
    {event : Event ioSignature}
    (isCall : event =
      calledWith (systemWorld device dmi rest active firmware stray) arg
        state fun argument => .uwSetFan fanIndex (argument.setWidth 8))
    (succeeds : ∀ status, reportedStatus event = some status →
      0 ≤ status) :
    setsHardware event = false ↔
      FanRequestWaits device (afterCopy rest arg state).2 := by
  subst isCall
  have issues := issues_uwSetFan_iff _ known (succeeds _ rfl)
  rw [← not_iff_not, Bool.not_eq_false]
  exact issues

theorem silent_iff_unaffected (copies : copiesArgument command = true)
    (noErrors :
      NoErrors (systemWorld device dmi rest active firmware stray) command
        arg state) :
    Silent (systemWorld device dmi rest active firmware stray) command arg
        state ↔
      Unaffected device rest active firmware arg state command := by
  cases command
  case wClFanspeed | wClFanauto | wClFlightmodeSw | wClTouchpadSw |
      wClPerfProfile =>
    exact
      silent_iff_false rfl noErrors fun succeeds =>
        setsHardware_evaluated rfl (by decide) succeeds
  case wClWebcamSw =>
    exact silent_webcam_iff noErrors
  case wUwFanspeed =>
    exact
      silent_singleton.trans
        (silent_fan_iff (Or.inl rfl) rfl
          (noErrors _ List.mem_cons_self))
  case wUwFanspeed2 =>
    exact
      silent_singleton.trans
        (silent_fan_iff (Or.inr rfl) rfl
          (noErrors _ List.mem_cons_self))
  case wUwMode =>
    exact silent_iff_false rfl noErrors fun _ => rfl
  case wUwTdp0 | wUwTdp1 | wUwTdp2 =>
    exact
      silent_iff_false rfl noErrors fun succeeds =>
        issues_uwSetTdp (succeeds _ rfl)
  case wUwPerfProf =>
    exact
      silent_iff_false rfl noErrors fun succeeds =>
        issues_uwSetPerformanceProfileV1 (succeeds _ rfl)
  all_goals exact nomatch copies

variable (device dmi rest active firmware stray command arg state)

end System

/-- A kernel with no good user pointer; what the drivers answer is not
asked. -/
def badPointers : Environment ioKernelSignature (Machine Ram)
  | .copyToUser _ _, machine => (4, machine)
  | .copyFromUser _, machine => (⟨4, 0⟩, machine)
  | .clevoGetActiveInterfaceId, machine => (none, machine)
  | .clevoEvaluateMethod _ _, machine =>
      (⟨(-enodev, none), false⟩, machine)
  | .uniwillGetActiveInterfaceId, machine => (some "uniwill_wmi", machine)
  | .uniwillGetDeviceFeatures, machine => ((), machine)
  | .uniwillReadEcRam _, machine => (.fail 0, machine)
  | .uniwillWriteEcRam _ _, machine => (⟨-eio, false⟩, machine)
  | .uwSetFan _ _, machine => (⟨0, false⟩, machine)
  | .uwSetFanAuto, machine => (0, machine)
  | .uwSetTdp _ _ _, machine => (⟨0, false⟩, machine)
  | .uwSetPerformanceProfileV1 _, machine => (⟨0, false⟩, machine)
  | .msleep _, machine => ((), machine)

/-- Firmware that knows no method. -/
def absentFirmware : Clevo.Firmware Ram
  | .wmiEvaluateMethod _ _, platform => (.failure, platform)
  | .acpiEvaluateDsm _ _, platform => (none, platform)
  | .activeDriverData, platform => (false, platform)
  | .acpiDeviceHandle, platform => (false, platform)
  | .strayObject, platform => (.other, platform)
  | .strayByte, platform => (0, platform)
  | .acpiFree _, platform => ((), platform)

/-- A Uniwill device without a Clevo interface. -/
def badPointerWorld : IoWorld (Machine Ram) :=
  systemWorld reliableEc (fun _ => none) badPointers (fun _ => none)
    absentFirmware {}

/-- The mode register holds `0x10`. -/
def modeMachine : IoStatics × Machine Ram :=
  ({ uwFeats := true }, {},
    fun address => if address = 0x0751 then 0x10 else 0)

end TuxedoDrivers.Io.Ioctl
