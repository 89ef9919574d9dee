import TuxedoDrivers.Clevo.Methods
import TuxedoDrivers.Io.Ioctl
import TuxedoDrivers.Uniwill.FanRequests

/-!
# The drivers behind the ioctl interface

The requests of the ioctl interface that the Uniwill driver answers, with the
driver running on a device, and those that the Clevo driver answers, with
firmware behind it.  An operation that returns no error has issued something
to one of the two, but for requests of a fan speed.
-/

namespace TuxedoDrivers.Io.Ioctl

open Interaction Uniwill

section DriverWorld

variable {σ : Type} (device : EcDevice σ) (dmi : Dmi)
  (rest : Environment ioKernelSignature (Machine σ))

def EcEvent.isWrite : EcEvent → Bool
  | .read _ _ => false
  | .write _ _ _ => true

/-- A call of the driver as the interface sees it. -/
def operationReturn {α β : Type} (program : Driver α) (report : α → β)
    (machine : Machine σ) : OperationReturn β × Machine σ :=
  (⟨report (device.run program machine).1,
      (device.trace program machine).any EcEvent.isWrite⟩,
    (device.run program machine).2)

/-- The driver answers the requests about Uniwill devices, and the rest of
the kernel the others. -/
def driverKernel : Environment ioKernelSignature (Machine σ)
  | .uniwillGetDeviceFeatures, machine =>
      ((), (device.run (uniwillGetDeviceFeatures dmi) machine).2)
  | .uniwillReadEcRam address, machine =>
      device.run (uniwillReadEcRam address) machine
  | .uniwillWriteEcRam address data, machine =>
      operationReturn device (uniwillWriteEcRam address data) EcWrite.status
        machine
  | .uwSetFan fanIndex fanSpeed, machine =>
      operationReturn device (uwSetFan fanIndex fanSpeed) id machine
  | .uwSetFanAuto, machine => device.run uwSetFanAuto machine
  | .uwSetTdp defs tdpIndex tdpValue, machine =>
      operationReturn device (Io.uwSetTdp defs tdpIndex tdpValue) id machine
  | .uwSetPerformanceProfileV1 profile, machine =>
      operationReturn device (Io.uwSetPerformanceProfileV1 profile) id machine
  | request, machine => rest request machine

/-- `uw_feats` points to the features of the driver. -/
def driverWorld (stray : DeviceFeatures) : IoWorld (Machine σ) where
  kernel := driverKernel device dmi rest
  deviceFeatures machine := machine.1.uniwillDeviceFeatures
  strayFeatures _ := stray

variable (active : σ → Option Clevo.ClevoInterface)
  (firmware : Clevo.Firmware σ)

/-- The firmware is called. -/
def isEvaluation : Event Clevo.clevoSignature → Bool
  | ⟨.wmiEvaluateMethod _ _, _⟩ => true
  | ⟨.acpiEvaluateDsm _ _, _⟩ => true
  | _ => false

/-- The Clevo driver answers the requests about its interface, which calls
firmware that runs on the same platform as the EC. -/
def clevoKernel : Environment ioKernelSignature (Machine σ)
  | .clevoGetActiveInterfaceId, machine =>
      ((active machine.2).map Clevo.ClevoInterface.stringId, machine)
  | .clevoEvaluateMethod cmd arg, (statics, platform) =>
      let call := Clevo.clevoEvaluateMethod (active platform) cmd arg
      (⟨(call.run firmware platform).1,
          (call.trace firmware platform).any isEvaluation⟩,
        statics, (call.run firmware platform).2)
  | request, machine => rest request machine

/-- Both drivers, and the rest of the kernel: the copies from and to user
space among it. -/
def systemWorld (stray : DeviceFeatures) : IoWorld (Machine σ) :=
  driverWorld device dmi (clevoKernel rest active firmware) stray

end DriverWorld

/-! ## What a successful call issues -/

section Evaluates

variable {σ : Type} {firmware : Clevo.Firmware σ} {platform : σ}
  {cmd : U8} {arg : U32}

theorem evaluates_clevoAcpiEvaluateDsm {argument : Clevo.DsmArgument}
    {result : Bool}
    (succeeds :
      0 ≤ ((Clevo.clevoAcpiEvaluateDsm cmd argument result).run firmware
        platform).1.status) :
    ((Clevo.clevoAcpiEvaluateDsm cmd argument result).trace firmware
      platform).any isEvaluation = true := by
  have valid : ¬ Clevo.guidParse Clevo.clevoAcpiDsmUuid < 0 := by
    decide
  rw [Clevo.clevoAcpiEvaluateDsm, if_neg valid, Program.run_bind,
    Program.run_ite] at succeeds
  rw [Clevo.clevoAcpiEvaluateDsm, if_neg valid, Program.trace_bind,
    Program.trace_ite, List.any_append, Bool.or_eq_true]
  right
  split at succeeds
  · change (0 : Int) ≤ -enodev at succeeds
    exact absurd succeeds (by decide)
  · rw [if_neg ‹_›]
    rfl

theorem evaluates_methodCall (interface : Clevo.ClevoInterface)
    {result : Bool}
    (succeeds :
      0 ≤ ((interface.methodCall cmd arg result).run firmware
        platform).1.status) :
    ((interface.methodCall cmd arg result).trace firmware platform).any
      isEvaluation = true := by
  cases interface with
  | wmi => rfl
  | acpi =>
      simp only [Clevo.ClevoInterface.methodCall,
        Clevo.clevoAcpiInterfaceMethodCall, Program.run_bind,
        Program.run_ite] at succeeds
      simp only [Clevo.ClevoInterface.methodCall,
        Clevo.clevoAcpiInterfaceMethodCall, Program.trace_bind,
        Program.trace_ite, List.any_append, Bool.or_eq_true]
      right
      split at succeeds
      · rw [if_pos ‹_›]
        exact evaluates_clevoAcpiEvaluateDsm succeeds
      · change (0 : Int) ≤ -enodata at succeeds
        exact absurd succeeds (by decide)

/-- A method call that returns no error has called the firmware. -/
theorem evaluates_clevoEvaluateMethod
    (active : Option Clevo.ClevoInterface)
    (succeeds :
      0 ≤ ((Clevo.clevoEvaluateMethod active cmd arg).run firmware
        platform).1.1) :
    ((Clevo.clevoEvaluateMethod active cmd arg).trace firmware
      platform).any isEvaluation = true := by
  cases active with
  | none =>
      change (0 : Int) ≤ -enodev at succeeds
      exact absurd succeeds (by decide)
  | some interface =>
      rw [Clevo.clevoEvaluateMethod, Program.trace_bind, List.any_append,
        Bool.or_eq_true]
      left
      rw [Clevo.clevoEvaluateMethod, Program.run_bind,
        Program.run_ite] at succeeds
      apply evaluates_methodCall interface
      split at succeeds
      · exact succeeds
      case isFalse success =>
        exact Int.le_of_eq (not_not.mp success).symm

end Evaluates

section Issues

variable {σ : Type} {device : EcDevice σ} {machine : Machine σ}

private theorem not_nonneg_einval :
    ¬ 0 ≤ (BitVec.ofInt 32 (-einval)).toInt := by
  decide

/-- A profile that is set without an error is written. -/
theorem issues_uwSetPerformanceProfileV1 {profile : U32}
    (succeeds :
      0 ≤ (device.run (uwSetPerformanceProfileV1 profile)
        machine).1.toInt) :
    (device.trace (uwSetPerformanceProfileV1 profile) machine).any
      EcEvent.isWrite = true := by
  have anyStatus (status : U32) : 0 ≤ status := Nat.zero_le _
  rw [uwSetPerformanceProfileV1, run_bind, if_pos (anyStatus _),
    run_ite] at succeeds
  rw [uwSetPerformanceProfileV1, trace_bind, if_pos (anyStatus _),
    trace_ite, List.any_append, Bool.or_eq_true]
  right
  split at succeeds
  · rw [if_pos ‹_›]
    rfl
  case isFalse invalid =>
    rw [run_pure, not_not.mp invalid] at succeeds
    exact absurd succeeds not_nonneg_einval

theorem issues_writeTdp {defs : TdpPointers} {tdpIndex : U8}
    {tdpValue : Int}
    (succeeds :
      0 ≤ (device.run (writeTdp defs tdpIndex tdpValue) machine).1) :
    (device.trace (writeTdp defs tdpIndex tdpValue) machine).any
      EcEvent.isWrite = true := by
  unfold writeTdp at succeeds ⊢
  split at succeeds
  case isTrue unsupported =>
    change 0 ≤ uwGetTdpMin defs tdpIndex at succeeds
    omega
  · rw [if_neg ‹_›]
    split at succeeds
    · change (0 : Int) ≤ -einval at succeeds
      exact absurd succeeds (by decide)
    · rw [if_neg ‹_›]
      rfl

/-- A limit that is set without an error is written. -/
theorem issues_uwSetTdp {defs : TdpPointers} {tdpIndex : U8}
    {tdpValue : Int}
    (succeeds :
      0 ≤ (device.run (Io.uwSetTdp defs tdpIndex tdpValue) machine).1) :
    (device.trace (Io.uwSetTdp defs tdpIndex tdpValue) machine).any
      EcEvent.isWrite = true := by
  rw [Io.uwSetTdp, run_bind, run_ite] at succeeds
  rw [Io.uwSetTdp, trace_bind, trace_ite, List.any_append,
    Bool.or_eq_true]
  right
  split at succeeds
  · rw [if_pos ‹_›, trace_bind, List.any_append, Bool.or_eq_true]
    rw [run_bind] at succeeds
    exact Or.inr (issues_writeTdp succeeds)
  · rw [if_neg ‹_›]
    exact issues_writeTdp succeeds

/-- What a request of a fan speed needs to leave the EC alone: "full fan
mode", which has precedence, or direct fan control that has yet to start,
which the restart work does later. -/
def FanRequestWaits (device : EcDevice σ) (machine : Machine σ) : Prop :=
  if machine.1.hasUniversalEcFanControl = true then
    FullFanMode (device.fanMode machine.2)
  else machine.1.fan.directFanControlStarted = false

theorem any_isWrite_directFanControl {fanIndex : U32} (fanSpeed : U8)
    (known : fanIndex = 0 ∨ fanIndex = 1) :
    (device.trace (directFanControl fanIndex fanSpeed true) machine).any
        EcEvent.isWrite = true ↔
      machine.1.fan.directFanControlStarted = true := by
  cases started : machine.1.fan.directFanControlStarted with
  | false =>
      rcases known with rfl | rfl <;>
        simp [directFanControl, directFanControlApply, started]
  | true =>
      rcases known with rfl | rfl <;>
        simp [directFanControl, directFanControlApply, started,
          EcEvent.isWrite]

/-- A request of a fan speed that returns no error has written to the EC
unless it had to wait. -/
theorem issues_uwSetFan_iff {fanIndex : U32} (fanSpeed : U8)
    (known : fanIndex = 0 ∨ fanIndex = 1)
    (succeeds :
      0 ≤ (device.run (uwSetFan fanIndex fanSpeed) machine).1.toInt) :
    (device.trace (uwSetFan fanIndex fanSpeed) machine).any
        EcEvent.isWrite = true ↔
      ¬ FanRequestWaits device machine := by
  unfold FanRequestWaits
  cases universal : machine.1.hasUniversalEcFanControl with
  | false =>
      rw [(run_uwSetFan_direct device fanIndex fanSpeed universal).2,
        any_isWrite_directFanControl fanSpeed known]
      simp
  | true =>
      rw [if_pos rfl]
      by_cases fullFanMode : FullFanMode (device.fanMode machine.2)
      · rw [(run_uwSetFan_ignored device fanIndex fanSpeed universal
          fullFanMode).2]
        exact iff_of_false Bool.false_ne_true fun waits => waits fullFanMode
      · refine iff_of_true ?_ fullFanMode
        by_cases accepted : AcceptedFanRequest fanIndex fanSpeed
        · rw [(run_uwSetFan_accepted device fanIndex fanSpeed universal
            fullFanMode accepted).2]
          simp [uwSetFanTables, EcEvent.isWrite]
        · rw [(run_uwSetFan_rejected device fanIndex fanSpeed universal
            fullFanMode accepted).1] at succeeds
          exact absurd succeeds not_nonneg_einval

end Issues

end TuxedoDrivers.Io.Ioctl
