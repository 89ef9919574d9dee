import TuxedoDrivers.Clevo.Settings

/-!
# The call contract of the back ends

A method call that is given an address for the result and returns 0 has had
the firmware evaluate the method and has stored the object it returned.  The
callers rely on this, since they free the object without a check.  The call
with a buffer argument through WMI returns 0 and does neither, and the main
result says exactly which calls and which runs of the callers it spoils.
-/

namespace TuxedoDrivers.Clevo

open Interaction

/-! ## Contract -/

/-- The argument of a method call. -/
inductive MethodArgument where
  | value (arg : U32)
  | pkgbuf (arg : List U8)
  deriving DecidableEq, Repr

def ClevoInterface.call (interface : ClevoInterface) (cmd : U8) :
    MethodArgument → Bool → Call MethodReturn
  | .value arg => interface.methodCall cmd arg
  | .pkgbuf arg => interface.methodCallPkgbuf cmd arg

/-- The firmware gets the command with its argument and returns the
object. -/
inductive Delivers (cmd : U8) :
    MethodArgument → AcpiObject → Event clevoSignature → Prop
  | wmi (arg : U32) (object : AcpiObject) :
      Delivers cmd (.value arg) object
        ⟨.wmiEvaluateMethod (cmd.setWidth 32) arg, .success (some object)⟩
  | acpiValue (arg : U32) (object : AcpiObject) :
      Delivers cmd (.value arg) object
        ⟨.acpiEvaluateDsm (cmd.setWidth 64) (.integer (arg.setWidth 64)),
          some object⟩
  | acpiPkgbuf (arg : List U8) (object : AcpiObject) :
      Delivers cmd (.pkgbuf arg) object
        ⟨.acpiEvaluateDsm (cmd.setWidth 64) (.buffer arg), some object⟩

def Delivered (cmd : U8) (argument : MethodArgument) (object : AcpiObject)
    (trace : List (Event clevoSignature)) : Prop :=
  ∃ event ∈ trace, Delivers cmd argument object event

/-- Every pointer that is freed is an object that the firmware returned. -/
def FreesReturned (trace : List (Event clevoSignature)) : Prop :=
  ∀ freed : Option AcpiObject,
    (⟨.acpiFree freed, ()⟩ : Event clevoSignature) ∈ trace →
      ∃ object, freed = some object ∧
        ∃ cmd argument, Delivered cmd argument object trace

section Contract

variable {σ : Type} (firmware : Firmware σ)

/-- A call with an address for the result. -/
def HonoursContract (interface : ClevoInterface) (cmd : U8)
    (argument : MethodArgument) (state : σ) : Prop :=
  let call := interface.call cmd argument true
  (call.run firmware state).1.status = 0 →
    ∃ object,
      (call.run firmware state).1.stored = some object ∧
        Delivered cmd argument object (call.trace firmware state)

/-- A caller that sets something frees only what the firmware returned, and
returns 0 only if the firmware received one of the arguments. -/
def HonoursCaller (cmd : U8) (arguments : List U8 → Prop)
    (caller : Call Int) (state : σ) : Prop :=
  FreesReturned (caller.trace firmware state) ∧
    ((caller.run firmware state).1 = 0 →
      ∃ arg object, arguments arg ∧
        Delivered cmd (.pkgbuf arg) object (caller.trace firmware state))

end Contract

/-! ## Traces -/

section Traces

variable {cmd : U8} {argument : MethodArgument} {object : AcpiObject}
  {first second trace : List (Event clevoSignature)}

theorem Delivered.append_left
    (delivered : Delivered cmd argument object first) :
    Delivered cmd argument object (first ++ second) := by
  obtain ⟨event, member, delivers⟩ := delivered
  exact ⟨event, List.mem_append_left second member, delivers⟩

theorem Delivered.append_right
    (delivered : Delivered cmd argument object second) :
    Delivered cmd argument object (first ++ second) := by
  obtain ⟨event, member, delivers⟩ := delivered
  exact ⟨event, List.mem_append_right first member, delivers⟩

theorem FreesReturned.append (firstFrees : FreesReturned first)
    (secondFrees : FreesReturned second) :
    FreesReturned (first ++ second) := by
  intro freed member
  rcases List.mem_append.mp member with inFirst | inSecond
  · obtain ⟨object, same, cmd, argument, delivered⟩ :=
      firstFrees freed inFirst
    exact ⟨object, same, cmd, argument, delivered.append_left⟩
  · obtain ⟨object, same, cmd, argument, delivered⟩ :=
      secondFrees freed inSecond
    exact ⟨object, same, cmd, argument, delivered.append_right⟩

/-- A trace that delivers an object may go on to free it. -/
theorem FreesReturned.free (frees : FreesReturned trace)
    (delivered : Delivered cmd argument object trace) :
    FreesReturned (trace ++ [⟨.acpiFree (some object), ()⟩]) := by
  intro freed member
  rcases List.mem_append.mp member with inTrace | last
  · obtain ⟨returned, same, cmd, argument, delivered⟩ :=
      frees freed inTrace
    exact ⟨returned, same, cmd, argument, delivered.append_left⟩
  · cases List.mem_singleton.mp last
    exact ⟨object, rfl, cmd, argument, delivered.append_left⟩

/-- What is not a free. -/
def NotFree : ClevoRequest → Prop
  | .acpiFree _ => False
  | _ => True

theorem notFree_of_callRequest {α : Type} {cmd : U8}
    {argument : DsmArgument} {program : Call α}
    (asks : program.Asks (CallRequest cmd argument)) :
    program.Asks NotFree := by
  refine asks.mono ?_
  intro request permitted
  cases request with
  | acpiFree object =>
      exact permitted
  | wmiEvaluateMethod | acpiEvaluateDsm | activeDriverData
  | acpiDeviceHandle | strayObject | strayByte =>
      trivial

theorem freesReturned_of_notFree {σ α : Type} {firmware : Firmware σ}
    {program : Call α} (asks : program.Asks NotFree) (state : σ) :
    FreesReturned (program.trace firmware state) :=
  fun _ member => (asks.of_mem_trace member).elim

end Traces

/-! ## Method calls -/

section Calls

variable {σ : Type} (firmware : Firmware σ)

theorem guidParse_clevoAcpiDsmUuid : guidParse clevoAcpiDsmUuid = 0 := by
  decide

theorem clevoAcpiEvaluateDsm_delivers (cmd : U8) (argument : DsmArgument)
    (state : σ)
    (success :
      ((clevoAcpiEvaluateDsm cmd argument true).run firmware
        state).1.status = 0) :
    ∃ object,
      ((clevoAcpiEvaluateDsm cmd argument true).run firmware
          state).1.stored = some object ∧
        (⟨.acpiEvaluateDsm (cmd.setWidth 64) argument, some object⟩ :
            Event clevoSignature) ∈
          (clevoAcpiEvaluateDsm cmd argument true).trace firmware state := by
  have valid : ¬ guidParse clevoAcpiDsmUuid < 0 := by
    rw [guidParse_clevoAcpiDsmUuid]
    decide
  simp only [clevoAcpiEvaluateDsm, if_neg valid, Program.run_bind,
    Program.trace_bind, run_acpiDeviceHandle, trace_acpiDeviceHandle,
    Program.run_ite, Program.trace_ite, run_acpiEvaluateDsm,
    trace_acpiEvaluateDsm, Program.run_pure, Program.trace_pure]
    at success ⊢
  cases handle : (firmware .acpiDeviceHandle state).1 with
  | false =>
      simp [handle, enodev] at success
  | true =>
      rcases reply :
          (firmware (.acpiEvaluateDsm (cmd.setWidth 64) argument)
            (firmware .acpiDeviceHandle state).2).1 with _ | object
      · simp [handle, reply] at success
      · exact ⟨object, by simp, by simp⟩

/-- The same where the interface has its device. -/
theorem clevoAcpiInterface_delivers (cmd : U8) (argument : DsmArgument)
    (state : σ) :
    let program := do
      let present ← activeDriverData
      if present = true then
        clevoAcpiEvaluateDsm cmd argument true
      else
        return ⟨-enodata, none⟩
    (program.run firmware state).1.status = 0 →
      ∃ object,
        (program.run firmware state).1.stored = some object ∧
          (⟨.acpiEvaluateDsm (cmd.setWidth 64) argument, some object⟩ :
              Event clevoSignature) ∈ program.trace firmware state := by
  intro program success
  simp only [program, Program.run_bind, Program.trace_bind,
    run_activeDriverData, Program.run_ite, Program.trace_ite] at success ⊢
  cases present : (firmware .activeDriverData state).1 with
  | false =>
      simp [present, enodata] at success
  | true =>
      rw [present, if_pos rfl] at success
      obtain ⟨object, stored, evaluated⟩ :=
        clevoAcpiEvaluateDsm_delivers firmware _ _ _ success
      rw [if_pos rfl, if_pos rfl]
      exact ⟨object, stored, List.mem_append_right _ evaluated⟩

theorem honoursContract_acpi (cmd : U8) (argument : MethodArgument)
    (state : σ) : HonoursContract firmware .acpi cmd argument state := by
  intro success
  cases argument with
  | value arg =>
      obtain ⟨object, stored, evaluated⟩ :=
        clevoAcpiInterface_delivers firmware cmd
          (.integer (arg.setWidth 64)) state success
      exact ⟨object, stored, _, evaluated, .acpiValue arg object⟩
  | pkgbuf arg =>
      obtain ⟨object, stored, evaluated⟩ :=
        clevoAcpiInterface_delivers firmware cmd (.buffer arg) state success
      exact ⟨object, stored, _, evaluated, .acpiPkgbuf arg object⟩

theorem honoursContract_wmi_value (cmd : U8) (arg : U32) (state : σ) :
    HonoursContract firmware .wmi cmd (.value arg) state := by
  intro success
  simp only [ClevoInterface.call, ClevoInterface.methodCall,
    clevoWmiInterfaceMethodCall, clevoWmiEvaluate, Program.run_bind,
    Program.trace_bind, run_wmiEvaluateMethod, trace_wmiEvaluateMethod]
    at success ⊢
  rcases reply :
      (firmware (.wmiEvaluateMethod (cmd.setWidth 32) arg) state).1
      with _ | _ | object
  · simp [reply, eio] at success
  · simp [reply] at success
  · refine ⟨object, by simp, Delivered.append_left ?_⟩
    exact ⟨_, List.mem_singleton_self _, .wmi arg object⟩

/-- The call with a buffer argument through WMI succeeds with nothing
stored. -/
theorem not_honoursContract_wmi_pkgbuf (cmd : U8) (arg : List U8)
    (state : σ) :
    ¬ HonoursContract firmware .wmi cmd (.pkgbuf arg) state := by
  intro honours
  obtain ⟨object, stored, -⟩ := honours rfl
  cases stored

def MethodArgument.IsPkgbuf : MethodArgument → Prop
  | .value _ => False
  | .pkgbuf _ => True

theorem honoursContract_iff (interface : ClevoInterface) (cmd : U8)
    (argument : MethodArgument) (state : σ) :
    HonoursContract firmware interface cmd argument state ↔
      ¬ (interface = .wmi ∧ argument.IsPkgbuf) := by
  cases interface with
  | acpi =>
      exact
        iff_of_true (honoursContract_acpi firmware cmd argument state)
          (fun both => by cases both.1)
  | wmi =>
      cases argument with
      | value arg =>
          exact
            iff_of_true (honoursContract_wmi_value firmware cmd arg state)
              (fun both => both.2)
      | pkgbuf arg =>
          exact
            iff_of_false
              (not_honoursContract_wmi_pkgbuf firmware cmd arg state)
              (fun spared => spared ⟨rfl, trivial⟩)

end Calls

/-! ## Callers -/

section Callers

variable {σ : Type} (firmware : Firmware σ)
  (active : Option ClevoInterface)

theorem clevoEvaluateMethod2_notFree (cmd : U8) (arg : U32)
    (result : Bool) :
    (clevoEvaluateMethod2 active cmd arg result).Asks NotFree :=
  notFree_of_callRequest (clevoEvaluateMethod2_asks cmd result active arg)

theorem clevoEvaluateMethodPkgbuf_notFree (cmd : U8) (arg : List U8)
    (result : Bool) :
    (clevoEvaluateMethodPkgbuf active cmd arg result).Asks NotFree :=
  notFree_of_callRequest
    (clevoEvaluateMethodPkgbuf_asks cmd result active arg)

theorem clevoEvaluateMethod2_delivers (cmd : U8) (arg : U32) (state : σ)
    (success :
      ((clevoEvaluateMethod2 active cmd arg true).run firmware
        state).1.status = 0) :
    ∃ object,
      ((clevoEvaluateMethod2 active cmd arg true).run firmware
          state).1.stored = some object ∧
        Delivered cmd (.value arg) object
          ((clevoEvaluateMethod2 active cmd arg true).trace firmware
            state) := by
  cases active with
  | none =>
      simp [clevoEvaluateMethod2, enodev] at success
  | some interface =>
      have honours :=
        (honoursContract_iff firmware interface cmd (.value arg) state).mpr
          fun both => both.2
      exact honours success

theorem clevoEvaluateMethodPkgbuf_delivers (spared : active ≠ some .wmi)
    (cmd : U8) (arg : List U8) (state : σ)
    (success :
      ((clevoEvaluateMethodPkgbuf active cmd arg true).run firmware
        state).1.status = 0) :
    ∃ object,
      ((clevoEvaluateMethodPkgbuf active cmd arg true).run firmware
          state).1.stored = some object ∧
        Delivered cmd (.pkgbuf arg) object
          ((clevoEvaluateMethodPkgbuf active cmd arg true).trace firmware
            state) := by
  cases active with
  | none =>
      simp [clevoEvaluateMethodPkgbuf, enodev] at success
  | some interface =>
      have honours :=
        (honoursContract_iff firmware interface cmd (.pkgbuf arg) state).mpr
          fun both => spared (congrArg some both.1)
      exact honours success

/-- The end of both callers: the set command, and the object freed. -/
private def setAndFree (cmd : U8) (arg : List U8)
    (failed done : Int → Int) : Call Int := do
  let reply ← clevoEvaluateMethodPkgbuf active cmd arg true
  if reply.status ≠ 0 then
    return failed reply.status
  else
    acpiFree reply.stored
    return done reply.status

private theorem setAndFree_honours (spared : active ≠ some .wmi)
    (cmd : U8) (arg : List U8) (failed done : Int → Int)
    (nonzero : ∀ status, status ≠ 0 → failed status ≠ 0) (state : σ) :
    HonoursCaller firmware cmd (· = arg)
      (setAndFree active cmd arg failed done) state := by
  have callFrees :
      FreesReturned
        ((clevoEvaluateMethodPkgbuf active cmd arg true).trace firmware
          state) :=
    freesReturned_of_notFree
      (clevoEvaluateMethodPkgbuf_notFree active cmd arg true) state
  simp only [HonoursCaller, setAndFree, Program.run_bind,
    Program.trace_bind, Program.run_ite, Program.trace_ite,
    Program.run_pure, Program.trace_pure, List.append_nil]
  by_cases success :
      ((clevoEvaluateMethodPkgbuf active cmd arg true).run firmware
        state).1.status = 0
  · obtain ⟨object, stored, delivered⟩ :=
      clevoEvaluateMethodPkgbuf_delivers firmware active spared cmd arg
        state success
    rw [if_neg (not_not_intro success), stored]
    exact
      ⟨callFrees.free delivered,
        fun _ => ⟨arg, object, rfl, delivered.append_left⟩⟩
  · rw [if_pos success, if_pos success, List.append_nil]
    exact
      ⟨callFrees, fun reportsSuccess =>
        absurd reportsSuccess (nonzero _ success)⟩

/-- Through WMI the caller frees a pointer nobody stored to. -/
private theorem setAndFree_wmi (cmd : U8) (arg : List U8)
    (failed done : Int → Int) (state : σ) :
    (⟨.acpiFree none, ()⟩ : Event clevoSignature) ∈
      (setAndFree (some .wmi) cmd arg failed done).trace firmware state := by
  exact List.mem_singleton_self _

private theorem not_freesReturned
    {trace : List (Event clevoSignature)}
    (member : (⟨.acpiFree none, ()⟩ : Event clevoSignature) ∈ trace) :
    ¬ FreesReturned trace := by
  intro frees
  obtain ⟨object, same, -⟩ := frees none member
  cases same

/-- What comes before the set command does not matter to the contract, if it
frees only what the firmware returned. -/
private theorem honoursCaller_bind {α : Type} {cmd : U8}
    {arguments : List U8 → Prop} {before : Call α} {caller : α → Call Int}
    {state : σ} (frees : FreesReturned (before.trace firmware state))
    (honours :
      HonoursCaller firmware cmd arguments
        (caller (before.run firmware state).1)
        (before.run firmware state).2) :
    HonoursCaller firmware cmd arguments (before >>= caller) state := by
  rw [HonoursCaller, Program.run_bind, Program.trace_bind]
  refine ⟨frees.append honours.1, fun reportsSuccess => ?_⟩
  obtain ⟨arg, object, allowed, delivered⟩ := honours.2 reportsSuccess
  exact ⟨arg, object, allowed, delivered.append_right⟩

private theorem HonoursCaller.mono {cmd : U8} {fewer more : List U8 → Prop}
    {caller : Call Int} {state : σ} (implies : ∀ arg, fewer arg → more arg)
    (honours : HonoursCaller firmware cmd fewer caller state) :
    HonoursCaller firmware cmd more caller state := by
  refine ⟨honours.1, fun reportsSuccess => ?_⟩
  obtain ⟨arg, object, allowed, delivered⟩ := honours.2 reportsSuccess
  exact ⟨arg, object, implies arg allowed, delivered⟩

/-- A caller that fails before it sets anything. -/
private theorem honoursCaller_failed {cmd : U8} {arguments : List U8 → Prop}
    {status : Int} {state : σ} (failed : status ≠ 0) :
    HonoursCaller firmware cmd arguments (pure status) state := by
  refine ⟨fun freed member => ?_, fun success => absurd success failed⟩
  exact absurd member List.not_mem_nil

private theorem readByte_notFree (byte : Option U8) :
    (readByte byte).Asks NotFree := by
  cases byte with
  | none =>
      exact ⟨trivial, fun _ => trivial⟩
  | some byte =>
      trivial

/-! ### Fn lock -/

theorem clevoAcpiFnGet_frees (state : σ) :
    FreesReturned ((clevoAcpiFnGet active).trace firmware state) := by
  have callFrees :
      FreesReturned
        ((clevoEvaluateMethod2 active 0x4 0x18 true).trace firmware state) :=
    freesReturned_of_notFree
      (clevoEvaluateMethod2_notFree active 0x4 0x18 true) state
  simp only [clevoAcpiFnGet, Program.trace_bind, Program.trace_ite]
  by_cases success :
      ((clevoEvaluateMethod2 active 0x4 0x18 true).run firmware
        state).1.status = 0
  · obtain ⟨object, stored, delivered⟩ :=
      clevoEvaluateMethod2_delivers firmware active 0x4 0x18 state success
    rw [if_neg (not_not_intro success), stored]
    rcases object with
      value | (_ | ⟨b0, _ | ⟨b1, _ | ⟨b2, bytes⟩⟩⟩) | _
    · simpa [readObject] using callFrees
    · exact callFrees.free delivered
    · exact callFrees.free delivered
    · exact callFrees.free delivered
    · exact callFrees.free delivered
    · simpa [readObject] using callFrees
  · rw [if_pos success]
    simpa using callFrees

/-- A status reply that `clevo_acpi_fn_get` returns 0 for.  An object of a
wrong type or length is not an error to it. -/
def FnStatusAccepted : WmiReply → Prop
  | .success (some (.buffer (fnlock :: _ :: _ :: _))) =>
      fnlock = 1 ∨ fnlock = 2
  | .success (some _) => True
  | .success none => False
  | .failure => False

theorem clevoAcpiFnGet_wmi_eq_zero_iff (state : σ) :
    ((clevoAcpiFnGet (some .wmi)).run firmware state).1.1 = 0 ↔
      FnStatusAccepted
        (firmware (.wmiEvaluateMethod 0x4 0x18) state).1 := by
  simp only [clevoAcpiFnGet, clevoEvaluateMethod2, ClevoInterface.methodCall,
    clevoWmiInterfaceMethodCall, clevoWmiEvaluate, Program.run_bind,
    run_wmiEvaluateMethod, BitVec.reduceSetWidth]
  rcases reply : (firmware (.wmiEvaluateMethod 0x4 0x18) state).1 with
    _ | _ | value | (_ | ⟨b0, _ | ⟨b1, _ | ⟨b2, bytes⟩⟩⟩) | _
  · simp [FnStatusAccepted]
  · simp [FnStatusAccepted]
  · simp [FnStatusAccepted, readObject]
  · simp [FnStatusAccepted, readObject]
  · simp [FnStatusAccepted, readObject]
  · simp [FnStatusAccepted, readObject]
  · by_cases isOn : b0 = 1#8
    · simp [FnStatusAccepted, readObject, isOn]
    · by_cases isOff : b0 = 2#8
      · simp [FnStatusAccepted, readObject, isOff]
      · simp [FnStatusAccepted, readObject, isOn, isOff, enodata]
  · simp [FnStatusAccepted, readObject]

private theorem clevoAcpiFnLockSet_step (on : Int) {state : σ}
    (accepted :
      ((clevoAcpiFnGet active).run firmware state).1.1 = 0 →
        active ≠ some .wmi) :
    HonoursCaller firmware 0x4
      (fun arg =>
        ∃ kbstatus1 kbstatus2, arg = fnLockArgs on kbstatus1 kbstatus2)
      (clevoAcpiFnLockSet active on) state := by
  apply
    honoursCaller_bind firmware (clevoAcpiFnGet_frees firmware active state)
  by_cases success : ((clevoAcpiFnGet active).run firmware state).1.1 = 0
  · rw [if_neg (not_not_intro success)]
    apply honoursCaller_bind firmware
      (freesReturned_of_notFree (readByte_notFree _) _)
    apply honoursCaller_bind firmware
      (freesReturned_of_notFree (readByte_notFree _) _)
    refine
      HonoursCaller.mono firmware (fun arg sameArg => ⟨_, _, sameArg⟩)
        (setAndFree_honours firmware active (accepted success) 0x4 _
          (fun status => status) (fun status => status)
          (fun _ nonzero => nonzero) _)
  · rw [if_pos success]
    exact honoursCaller_failed firmware success

theorem clevoAcpiFnLockSet_honours_iff (on : Int) (state : σ) :
    HonoursCaller firmware 0x4
        (fun arg =>
          ∃ kbstatus1 kbstatus2, arg = fnLockArgs on kbstatus1 kbstatus2)
        (clevoAcpiFnLockSet active on) state ↔
      ¬ (active = some .wmi ∧
        FnStatusAccepted
          (firmware (.wmiEvaluateMethod 0x4 0x18) state).1) := by
  constructor
  · rintro ⟨frees, -⟩ ⟨rfl, accepted⟩
    have success :=
      (clevoAcpiFnGet_wmi_eq_zero_iff firmware state).mpr accepted
    refine not_freesReturned ?_ frees
    rw [clevoAcpiFnLockSet, Program.trace_bind,
      if_neg (not_not_intro success), Program.trace_bind,
      Program.trace_bind]
    apply List.mem_append_right
    apply List.mem_append_right
    apply List.mem_append_right
    exact
      setAndFree_wmi firmware 0x4 _ (fun status => status)
        (fun status => status) _
  · intro spared
    apply clevoAcpiFnLockSet_step
    rintro success rfl
    exact
      spared
        ⟨rfl, (clevoAcpiFnGet_wmi_eq_zero_iff firmware state).mp success⟩

/-! ### Flexicharger -/

theorem clevoCc4FlexichargerRead_frees (state : σ) :
    FreesReturned
      ((clevoCc4FlexichargerRead active).trace firmware state) := by
  have callFrees :
      FreesReturned
        ((clevoEvaluateMethod2 active 0x04 0x1e true).trace firmware
          state) :=
    freesReturned_of_notFree
      (clevoEvaluateMethod2_notFree active 0x04 0x1e true) state
  simp only [clevoCc4FlexichargerRead, Program.trace_bind,
    Program.trace_ite]
  by_cases success :
      ((clevoEvaluateMethod2 active 0x04 0x1e true).run firmware
        state).1.status = 0
  · obtain ⟨object, stored, delivered⟩ :=
      clevoEvaluateMethod2_delivers firmware active 0x04 0x1e state success
    rw [if_neg (not_not_intro success), stored]
    rcases object with
      value | (_ | ⟨b0, _ | ⟨b1, _ | ⟨b2, bytes⟩⟩⟩) | _
    · exact callFrees.free delivered
    · exact callFrees.free delivered
    · exact callFrees.free delivered
    · exact callFrees.free delivered
    · simpa [readObject] using callFrees.free delivered
    · exact callFrees.free delivered
  · rw [if_pos success]
    simpa using callFrees

/-- A status reply that `clevo_cc4_flexicharger_read` takes values from. -/
def FlexichargerAccepted : WmiReply → Prop
  | .success (some (.buffer (_ :: start :: stop :: _))) =>
      ¬ (stop = 0 ∧ start = 0)
  | .success (some _) => False
  | .success none => False
  | .failure => False

theorem clevoCc4FlexichargerRead_wmi_isOk_iff (state : σ) :
    (∃ previous,
        ((clevoCc4FlexichargerRead (some .wmi)).run firmware state).1 =
          .ok previous) ↔
      FlexichargerAccepted
        (firmware (.wmiEvaluateMethod 0x04 0x1e) state).1 := by
  simp only [clevoCc4FlexichargerRead, clevoEvaluateMethod2,
    ClevoInterface.methodCall, clevoWmiInterfaceMethodCall,
    clevoWmiEvaluate, Program.run_bind, run_wmiEvaluateMethod,
    BitVec.reduceSetWidth]
  rcases reply : (firmware (.wmiEvaluateMethod 0x04 0x1e) state).1 with
    _ | _ | value | (_ | ⟨b0, _ | ⟨b1, _ | ⟨b2, bytes⟩⟩⟩) | _
  · simp [FlexichargerAccepted]
  · simp [FlexichargerAccepted]
  · simp [FlexichargerAccepted, readObject]
  · simp [FlexichargerAccepted, readObject]
  · simp [FlexichargerAccepted, readObject]
  · simp [FlexichargerAccepted, readObject]
  · by_cases unused : b2 = 0#8 ∧ b1 = 0#8
    · simp [FlexichargerAccepted, readObject, unused]
    · simp [FlexichargerAccepted, readObject, unused]
  · simp [FlexichargerAccepted, readObject]

private theorem clevoCc4FlexichargerWrite_step
    (paramStart paramEnd paramStatus : Option U8) {state : σ}
    (accepted :
      (∃ previous,
        ((clevoCc4FlexichargerRead active).run firmware state).1 =
          .ok previous) → active ≠ some .wmi) :
    HonoursCaller firmware 0x04 (∃ set, · = flexichargerArgs set)
      (clevoCc4FlexichargerWrite active paramStart paramEnd paramStatus)
      state := by
  apply honoursCaller_bind firmware
    (clevoCc4FlexichargerRead_frees firmware active state)
  cases read : ((clevoCc4FlexichargerRead active).run firmware state).1 with
  | error status =>
      exact honoursCaller_failed firmware (by decide)
  | ok previous =>
      exact
        HonoursCaller.mono firmware (fun arg sameArg => ⟨_, sameArg⟩)
          (setAndFree_honours firmware active (accepted ⟨previous, read⟩)
            0x04 _ (fun _ => -eio) (fun _ => 0) (fun _ _ => by decide) _)

theorem clevoCc4FlexichargerWrite_honours_iff
    (paramStart paramEnd paramStatus : Option U8) (state : σ) :
    HonoursCaller firmware 0x04 (∃ set, · = flexichargerArgs set)
        (clevoCc4FlexichargerWrite active paramStart paramEnd paramStatus)
        state ↔
      ¬ (active = some .wmi ∧
        FlexichargerAccepted
          (firmware (.wmiEvaluateMethod 0x04 0x1e) state).1) := by
  constructor
  · rintro ⟨frees, -⟩ ⟨rfl, accepted⟩
    obtain ⟨previous, read⟩ :=
      (clevoCc4FlexichargerRead_wmi_isOk_iff firmware state).mpr accepted
    refine not_freesReturned ?_ frees
    rw [clevoCc4FlexichargerWrite, Program.trace_bind, read]
    apply List.mem_append_right
    exact
      setAndFree_wmi firmware 0x04 _ (fun _ => -eio) (fun _ => 0) _
  · intro spared
    apply clevoCc4FlexichargerWrite_step
    rintro readOk rfl
    exact
      spared
        ⟨rfl,
          (clevoCc4FlexichargerRead_wmi_isOk_iff firmware state).mp readOk⟩

end Callers

/-- Every call keeps the contract but those with a buffer argument through
WMI.  A caller is spoiled by one exactly when it gets that far: WMI is active
and the reply about the present setting is accepted. -/
theorem callContract_iff {σ : Type} (firmware : Firmware σ) (state : σ) :
    (∀ interface cmd argument,
      HonoursContract firmware interface cmd argument state ↔
        ¬ (interface = .wmi ∧ argument.IsPkgbuf)) ∧
      (∀ active on,
        HonoursCaller firmware 0x4
            (fun arg =>
              ∃ kbstatus1 kbstatus2, arg = fnLockArgs on kbstatus1 kbstatus2)
            (clevoAcpiFnLockSet active on) state ↔
          ¬ (active = some .wmi ∧
            FnStatusAccepted
              (firmware (.wmiEvaluateMethod 0x4 0x18) state).1)) ∧
      (∀ active paramStart paramEnd paramStatus,
        HonoursCaller firmware 0x04 (∃ set, · = flexichargerArgs set)
            (clevoCc4FlexichargerWrite active paramStart paramEnd
              paramStatus) state ↔
          ¬ (active = some .wmi ∧
            FlexichargerAccepted
              (firmware (.wmiEvaluateMethod 0x04 0x1e) state).1)) :=
  ⟨fun interface cmd argument =>
      honoursContract_iff firmware interface cmd argument state,
    fun active on => clevoAcpiFnLockSet_honours_iff firmware active on state,
    fun active paramStart paramEnd paramStatus =>
      clevoCc4FlexichargerWrite_honours_iff firmware active paramStart
        paramEnd paramStatus state⟩

/-- Firmware that reports the Fn lock as off, and nothing through ACPI. -/
def fnLockFirmware : Firmware Unit
  | .wmiEvaluateMethod _ _, _ =>
      (.success (some (.buffer [0x02, 0x00, 0x00])), ())
  | .acpiEvaluateDsm _ _, _ => (none, ())
  | .activeDriverData, _ => (false, ())
  | .acpiDeviceHandle, _ => (false, ())
  | .strayObject, _ => (.other, ())
  | .strayByte, _ => (0, ())
  | .acpiFree _, _ => ((), ())

/-- The toggle through WMI reports success without a word to the firmware,
and frees a pointer that was never set. -/
theorem fnLockToggle_throughWmi :
    let call :=
      ClevoInterface.wmi.methodCallPkgbuf 0x4 [0x19, 0x01, 0x00, 0x00] true
    (call.run fnLockFirmware ()).1 = ⟨0, none⟩ ∧
      call.trace fnLockFirmware () = [] ∧
      ¬ HonoursContract fnLockFirmware .wmi 0x4
        (.pkgbuf [0x19, 0x01, 0x00, 0x00]) () ∧
      ((clevoAcpiFnLockSet (some .wmi) 1).run fnLockFirmware ()).1 = 0 ∧
      (clevoAcpiFnLockSet (some .wmi) 1).trace fnLockFirmware () =
        [⟨.wmiEvaluateMethod 0x4 0x18,
            .success (some (.buffer [0x02, 0x00, 0x00]))⟩,
          ⟨.acpiFree (some (.buffer [0x02, 0x00, 0x00])), ()⟩,
          ⟨.acpiFree none, ()⟩] ∧
      ¬ FreesReturned
        ((clevoAcpiFnLockSet (some .wmi) 1).trace fnLockFirmware ()) := by
  refine ⟨rfl, rfl, ?_, rfl, rfl, ?_⟩
  · exact not_honoursContract_wmi_pkgbuf fnLockFirmware _ _ ()
  · intro frees
    obtain ⟨object, same, -⟩ :=
      frees none
        (List.mem_cons_of_mem _
          (List.mem_cons_of_mem _ (List.mem_singleton_self _)))
    cases same

end TuxedoDrivers.Clevo
