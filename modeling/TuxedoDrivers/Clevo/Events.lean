import TuxedoDrivers.Clevo.CallContract

/-!
# Events and the Fn lock

A WMI notification evaluates a method for the event and hands it to the
callback of the interface, and the event of the Fn lock key reads the lock
from the firmware and sets it the other way.

Both have local variables that only some of the firmware's answers store to
and that are used after the others too.  The main results say exactly for
which answers what is used is what the firmware has said.
-/

namespace TuxedoDrivers.Clevo

open Interaction

/-! ## Notifications -/

/-- The argument that the callback is executed with, if one is registered;
`eventValue` is what the local variable of this name holds at first. -/
def clevoWmiNotify (eventCallb : Bool) (eventValue : U32) :
    Call (Option U32) := do
  let reply ← clevoWmiEvaluate 0x01 0 true
  let eventValue ←
    if reply.status = 0 then do
      let object ← readObject reply.stored
      acpiFree reply.stored
      match object with
      | .integer value => pure (value.setWidth 32)
      | .buffer _ | .other => pure eventValue
    else pure eventValue
  return if eventCallb = true then some eventValue else none

section Notify

variable {σ : Type} (firmware : Firmware σ) (state : σ)

/-- What the firmware answers to the evaluation of the event. -/
def eventReply : WmiReply :=
  (firmware (.wmiEvaluateMethod 0x01 0) state).1

/-- The callback is executed with the integer that the firmware returned, or
not at all. -/
def NotifiesFirmwareValue (eventCallb : Bool) (eventValue : U32) : Prop :=
  ∀ code,
    ((clevoWmiNotify eventCallb eventValue).run firmware state).1 =
        some code →
      ∃ value,
        eventReply firmware state = .success (some (.integer value)) ∧
          code = value.setWidth 32

/-- The variable is stored to in one of the cases and used in all. -/
theorem run_clevoWmiNotify (eventCallb : Bool) (eventValue : U32) :
    ((clevoWmiNotify eventCallb eventValue).run firmware state).1 =
      if eventCallb = true then
        match eventReply firmware state with
        | .success (some (.integer value)) => some (value.setWidth 32)
        | .success (some (.buffer _)) | .success (some .other)
        | .success none | .failure => some eventValue
      else none := by
  unfold eventReply
  simp only [clevoWmiNotify, clevoWmiEvaluate, Program.run_bind,
    run_wmiEvaluateMethod]
  rcases (firmware (.wmiEvaluateMethod 0x01 0) state).1 with
    _ | _ | value | bytes | _ <;> rfl

/-- The callback only gets what the firmware returned exactly if none is
registered or the firmware returned an integer. -/
theorem notifiesFirmwareValue_iff (eventCallb : Bool) (eventValue : U32) :
    NotifiesFirmwareValue firmware state eventCallb eventValue ↔
      (eventCallb = true →
        ∃ value,
          eventReply firmware state = .success (some (.integer value))) := by
  unfold NotifiesFirmwareValue
  rw [run_clevoWmiNotify]
  cases eventCallb with
  | false => simp
  | true =>
      rcases eventReply firmware state with _ | _ | value | bytes | _ <;>
        simp

end Notify

/-- Firmware whose evaluations fail. -/
def silentFirmware : Firmware Unit
  | .wmiEvaluateMethod _ _, _ => (.failure, ())
  | .acpiEvaluateDsm _ _, _ => (none, ())
  | .activeDriverData, _ => (false, ())
  | .acpiDeviceHandle, _ => (false, ())
  | .strayObject, _ => (.other, ())
  | .strayByte, _ => (0, ())
  | .acpiFree _, _ => ((), ())

/-- An evaluation that fails leaves the variable as it is, and what it holds
is taken for the event of the Fn lock key. -/
theorem clevoWmiNotify_stale :
    ((clevoWmiNotify true 0x25).run silentFirmware ()).1 = some 0x25 ∧
      ¬ NotifiesFirmwareValue silentFirmware () true 0x25 := by
  refine ⟨rfl, fun notifies => ?_⟩
  obtain ⟨value, returned, -⟩ := notifies 0x25 rfl
  cases returned

/-! ## Fn lock -/

section FnLock

variable (activeClevoInterface : Option ClevoInterface)

/-- The case `CLEVO_EVENT_FN_LOCK_TOGGLE` of `clevo_keyboard_event_callb`. -/
def toggleFnLock : Call Unit := do
  let previous ← clevoAcpiFnGet activeClevoInterface
  if previous.1 ≠ 0 then
    return ()
  else
    let on ← readByte previous.2.on
    if on = 1 then
      let _ ← clevoAcpiFnLockSet activeClevoInterface 0
      return ()
    else
      let _ ← clevoAcpiFnLockSet activeClevoInterface 1
      return ()

/-- What `clevo_acpi_fn_get` makes of an object that the firmware
returned. -/
def fnGetResult : AcpiObject → Int × FnStatus
  | .buffer (fnlock :: kbstatus1 :: kbstatus2 :: _) =>
      let on : Option U8 :=
        if fnlock = 1 then some 1 else if fnlock = 2 then some 0 else none
      (if on.isSome = true then 0 else -enodata,
        ⟨on, some kbstatus1, some kbstatus2⟩)
  | .buffer _ | .integer _ | .other => (0, {})

/-- With a known lock the two bytes are stored and the status is 0. -/
theorem fnGetResult_known {fnlock : U8} (known : fnlock = 1 ∨ fnlock = 2)
    (kbstatus1 kbstatus2 : U8) (rest : List U8) :
    fnGetResult (.buffer (fnlock :: kbstatus1 :: kbstatus2 :: rest)) =
      (0, ⟨some (if fnlock = 1 then 1 else 0), some kbstatus1,
        some kbstatus2⟩) := by
  rcases known with rfl | rfl <;> rfl

theorem fnGetResult_unknown {fnlock : U8}
    (unknown : ¬ (fnlock = 1 ∨ fnlock = 2)) (kbstatus1 kbstatus2 : U8)
    (rest : List U8) :
    (fnGetResult (.buffer (fnlock :: kbstatus1 :: kbstatus2 :: rest))).1 =
      -enodata := by
  obtain ⟨notSet, notUnset⟩ := not_or.mp unknown
  simp only [fnGetResult, if_neg notSet, if_neg notUnset]
  rfl

variable {σ : Type} (firmware : Firmware σ) (state : σ)

/-- What the evaluation of command 0x04 with 0x18 returns. -/
def fnAnswer : MethodReturn :=
  ((clevoEvaluateMethod2 activeClevoInterface 0x4 0x18 true).run firmware
    state).1

/-- The state after `clevo_acpi_fn_get`. -/
def afterFnGet : σ :=
  ((clevoAcpiFnGet activeClevoInterface).run firmware state).2

theorem exists_object_of_fnAnswer
    (success : (fnAnswer activeClevoInterface firmware state).status = 0) :
    ∃ object,
      (fnAnswer activeClevoInterface firmware state).stored =
        some object := by
  obtain ⟨object, stored, -⟩ :=
    clevoEvaluateMethod2_delivers firmware activeClevoInterface 0x4 0x18
      state success
  exact ⟨object, stored⟩

theorem run_clevoAcpiFnGet_error
    (failed : (fnAnswer activeClevoInterface firmware state).status ≠ 0) :
    ((clevoAcpiFnGet activeClevoInterface).run firmware state).1 =
      ((fnAnswer activeClevoInterface firmware state).status, {}) := by
  unfold fnAnswer at failed ⊢
  simp only [clevoAcpiFnGet, Program.run_bind, if_pos failed,
    Program.run_pure]

theorem run_clevoAcpiFnGet_object {object : AcpiObject}
    (success : (fnAnswer activeClevoInterface firmware state).status = 0)
    (stored :
      (fnAnswer activeClevoInterface firmware state).stored =
        some object) :
    ((clevoAcpiFnGet activeClevoInterface).run firmware state).1 =
      fnGetResult object := by
  unfold fnAnswer at success stored
  simp only [clevoAcpiFnGet, Program.run_bind, success, stored, readObject,
    Program.run_pure, ne_eq, not_true_eq_false, if_false]
  cases object with
  | integer value => rfl
  | other => rfl
  | buffer bytes =>
      rcases bytes with _ | ⟨fnlock, _ | ⟨kbstatus1, _ | ⟨kbstatus2, rest⟩⟩⟩
        <;> rfl

/-! ### What the firmware reports -/

/-- The firmware reports the lock and the two status bytes. -/
def FnReported (fnlock kbstatus1 kbstatus2 : U8) : Prop :=
  (fnAnswer activeClevoInterface firmware state).status = 0 ∧
    (fnlock = 1 ∨ fnlock = 2) ∧
    ∃ rest,
      (fnAnswer activeClevoInterface firmware state).stored =
        some (.buffer (fnlock :: kbstatus1 :: kbstatus2 :: rest))

/-- `clevo_acpi_fn_get` returns 0 only if it has stored what the firmware
reports: 1 for a lock that is set and 0 for one that is not. -/
def FnGetReports : Prop :=
  let result :=
    ((clevoAcpiFnGet activeClevoInterface).run firmware state).1
  result.1 = 0 →
    ∃ fnlock kbstatus1 kbstatus2,
      FnReported activeClevoInterface firmware state fnlock kbstatus1
          kbstatus2 ∧
        result.2 =
          ⟨some (if fnlock = 1 then 1 else 0), some kbstatus1,
            some kbstatus2⟩

/-- The evaluation fails, or returns a buffer with the three bytes. -/
def FnAnswerUsable : Prop :=
  (fnAnswer activeClevoInterface firmware state).status = 0 →
    ∃ fnlock kbstatus1 kbstatus2 rest,
      (fnAnswer activeClevoInterface firmware state).stored =
        some (.buffer (fnlock :: kbstatus1 :: kbstatus2 :: rest))

theorem fnGetReports_iff :
    FnGetReports activeClevoInterface firmware state ↔
      FnAnswerUsable activeClevoInterface firmware state := by
  unfold FnGetReports FnAnswerUsable
  constructor
  · intro reports success
    obtain ⟨object, stored⟩ :=
      exists_object_of_fnAnswer activeClevoInterface firmware state success
    rw [run_clevoAcpiFnGet_object activeClevoInterface firmware state
      success stored] at reports
    by_cases returnsZero : (fnGetResult object).1 = 0
    · obtain ⟨fnlock, kbstatus1, kbstatus2, reported, -⟩ :=
        reports returnsZero
      obtain ⟨-, -, rest, buffer⟩ := reported
      exact ⟨fnlock, kbstatus1, kbstatus2, rest, buffer⟩
    · rw [stored]
      rcases object with value | bytes | _
      · exact absurd rfl returnsZero
      · rcases bytes with
          _ | ⟨fnlock, _ | ⟨kbstatus1, _ | ⟨kbstatus2, rest⟩⟩⟩
        · exact absurd rfl returnsZero
        · exact absurd rfl returnsZero
        · exact absurd rfl returnsZero
        · exact ⟨fnlock, kbstatus1, kbstatus2, rest, rfl⟩
      · exact absurd rfl returnsZero
  · intro usable result returnsZero
    by_cases success :
        (fnAnswer activeClevoInterface firmware state).status = 0
    · obtain ⟨fnlock, kbstatus1, kbstatus2, rest, stored⟩ := usable success
      have resultIs : result = _ :=
        run_clevoAcpiFnGet_object activeClevoInterface firmware state
          success stored
      rw [resultIs] at returnsZero ⊢
      by_cases known : fnlock = 1 ∨ fnlock = 2
      · rw [fnGetResult_known known]
        exact
          ⟨fnlock, kbstatus1, kbstatus2, ⟨success, known, rest, stored⟩,
            rfl⟩
      · rw [fnGetResult_unknown known] at returnsZero
        exact absurd returnsZero (by decide)
    · have resultIs : result = _ :=
        run_clevoAcpiFnGet_error activeClevoInterface firmware state success
      rw [resultIs] at returnsZero
      exact absurd returnsZero success

/-! ### What the firmware is sent -/

/-- Of the calls with a buffer argument, only those with these
arguments. -/
def SendsOnly (arguments : List U8 → Prop) : ClevoRequest → Prop
  | .acpiEvaluateDsm _ (.buffer arg) => arguments arg
  | _ => True

section Sent

variable {activeClevoInterface firmware state}
  {arguments : List U8 → Prop}

theorem argument_of_mem_trace {α : Type} {program : Call α}
    (sends : program.Asks (SendsOnly arguments))
    {function : U64} {arg : List U8} {answer : Option AcpiObject}
    (member : (⟨.acpiEvaluateDsm function (.buffer arg), answer⟩ :
        Event clevoSignature) ∈ program.trace firmware state) :
    arguments arg :=
  sends.of_mem_trace member

theorem sends_of_callRequest {α : Type} {cmd : U8}
    {argument : DsmArgument} {program : Call α}
    (asks : program.Asks (CallRequest cmd argument))
    (sent : ∀ arg, argument = .buffer arg → arguments arg) :
    program.Asks (SendsOnly arguments) := by
  refine asks.mono ?_
  intro request permitted
  cases request with
  | acpiEvaluateDsm function package =>
      cases package with
      | integer value =>
          trivial
      | buffer arg =>
          exact sent arg permitted.2.symm
  | wmiEvaluateMethod | activeDriverData | acpiDeviceHandle | strayObject
  | strayByte | acpiFree =>
      trivial

theorem clevoEvaluateMethod2_sends (cmd : U8) (arg : U32) :
    (clevoEvaluateMethod2 activeClevoInterface cmd arg true).Asks
      (SendsOnly arguments) := by
  apply sends_of_callRequest (clevoEvaluateMethod2_asks cmd true _ arg)
  intro bytes integer
  cases integer

theorem clevoEvaluateMethodPkgbuf_sends (cmd : U8) {arg : List U8}
    (sent : arguments arg) :
    (clevoEvaluateMethodPkgbuf activeClevoInterface cmd arg true).Asks
      (SendsOnly arguments) := by
  apply sends_of_callRequest (clevoEvaluateMethodPkgbuf_asks cmd true _ arg)
  intro bytes buffer
  cases buffer
  exact sent

theorem clevoAcpiFnGet_sends :
    (clevoAcpiFnGet activeClevoInterface).Asks (SendsOnly arguments) := by
  refine (clevoEvaluateMethod2_sends 0x4 0x18).bind fun reply => ?_
  refine Program.Asks.ite (fun _ => trivial) fun _ => ?_
  refine Program.Asks.bind ?_ fun object => ?_
  · cases reply.stored with
    | none => exact ⟨trivial, fun _ => trivial⟩
    | some object => trivial
  · cases object with
    | integer value => trivial
    | other => trivial
    | buffer bytes =>
        rcases bytes with
          _ | ⟨fnlock, _ | ⟨kbstatus1, _ | ⟨kbstatus2, rest⟩⟩⟩
        all_goals
          exact Program.Asks.bind ⟨trivial, fun _ => trivial⟩ fun _ => trivial

/-- What is sent with a buffer after the lock was read is sent by the rest,
and only if the read succeeded. -/
theorem later_of_mem_fnGet {α : Type} {error : Int × FnStatus → α}
    {rest : Int × FnStatus → Call α} {function : U64} {arg : List U8}
    {answer : Option AcpiObject}
    (member : (⟨.acpiEvaluateDsm function (.buffer arg), answer⟩ :
        Event clevoSignature) ∈
      (clevoAcpiFnGet activeClevoInterface >>= fun previous =>
        if previous.1 ≠ 0 then pure (error previous)
        else rest previous).trace firmware state) :
    let got := (clevoAcpiFnGet activeClevoInterface).run firmware state
    got.1.1 = 0 ∧
      (⟨.acpiEvaluateDsm function (.buffer arg), answer⟩ :
        Event clevoSignature) ∈ (rest got.1).trace firmware got.2 := by
  rw [Program.trace_bind] at member
  rcases List.mem_append.mp member with inGet | later
  · have nothing :
        (clevoAcpiFnGet activeClevoInterface).Asks
          (SendsOnly fun _ => False) := clevoAcpiFnGet_sends
    exact (argument_of_mem_trace nothing inGet).elim
  · by_cases failed :
        ((clevoAcpiFnGet activeClevoInterface).run firmware state).1.1 ≠ 0
    · rw [if_pos failed] at later
      cases later
    · rw [if_neg failed] at later
      exact ⟨not_not.mp failed, later⟩

/-- `clevo_acpi_fn_lock_set` sends the firmware nothing but the lock that is
wanted with the two status bytes that it just reported. -/
theorem reported_of_mem_fnLockSet
    (reports : FnGetReports activeClevoInterface firmware state) (on : Int)
    {function : U64} {arg : List U8} {answer : Option AcpiObject}
    (member : (⟨.acpiEvaluateDsm function (.buffer arg), answer⟩ :
        Event clevoSignature) ∈
      (clevoAcpiFnLockSet activeClevoInterface on).trace firmware state) :
    ∃ fnlock kbstatus1 kbstatus2,
      FnReported activeClevoInterface firmware state fnlock kbstatus1
          kbstatus2 ∧
        arg = fnLockArgs on kbstatus1 kbstatus2 := by
  obtain ⟨succeeded, later⟩ := later_of_mem_fnGet member
  obtain ⟨fnlock, kbstatus1, kbstatus2, reported, stored⟩ :=
    reports succeeded
  rw [stored] at later
  refine ⟨fnlock, kbstatus1, kbstatus2, reported, ?_⟩
  have sends :
      (do
        let reply ←
          clevoEvaluateMethodPkgbuf activeClevoInterface 0x4
            (fnLockArgs on kbstatus1 kbstatus2) true
        if reply.status ≠ 0 then
          return reply.status
        else
          acpiFree reply.stored
          return reply.status : Call Int).Asks
        (SendsOnly (Eq (fnLockArgs on kbstatus1 kbstatus2))) := by
    refine
      (clevoEvaluateMethodPkgbuf_sends 0x4 rfl).bind fun reply => ?_
    refine Program.Asks.ite (fun _ => trivial) fun _ => ?_
    exact
      Program.Asks.bind ⟨trivial, fun _ => trivial⟩ fun _ => trivial
  exact (argument_of_mem_trace sends later).symm

/-- What follows a call without a further request adds no event. -/
private theorem mem_of_done {α β : Type} {program : Call α} {value : β}
    {event : Event clevoSignature}
    (member :
      event ∈ (program >>= fun _ => pure value).trace firmware state) :
    event ∈ program.trace firmware state := by
  rw [Program.trace_bind, Program.trace_pure, List.append_nil] at member
  exact member

/-- The event of the Fn lock key sends the firmware nothing but the other
setting than the one it reported first, with the status bytes that it
reported then. -/
theorem reported_of_mem_toggleFnLock
    (reports : FnGetReports activeClevoInterface firmware state)
    (reportsAgain :
      ((clevoAcpiFnGet activeClevoInterface).run firmware state).1.1 = 0 →
        FnGetReports activeClevoInterface firmware
          (afterFnGet activeClevoInterface firmware state))
    {function : U64} {arg : List U8} {answer : Option AcpiObject}
    (member : (⟨.acpiEvaluateDsm function (.buffer arg), answer⟩ :
        Event clevoSignature) ∈
      (toggleFnLock activeClevoInterface).trace firmware state) :
    ∃ fnlock earlier1 earlier2,
      FnReported activeClevoInterface firmware state fnlock earlier1
          earlier2 ∧
        ∃ later kbstatus1 kbstatus2,
          FnReported activeClevoInterface firmware
              (afterFnGet activeClevoInterface firmware state) later
              kbstatus1 kbstatus2 ∧
            arg =
              fnLockArgs (if fnlock = 1 then 0 else 1) kbstatus1
                kbstatus2 := by
  obtain ⟨succeeded, later⟩ := later_of_mem_fnGet member
  obtain ⟨fnlock, earlier1, earlier2, reported, stored⟩ :=
    reports succeeded
  rw [stored] at later
  refine ⟨fnlock, earlier1, earlier2, reported, ?_⟩
  have second := reportsAgain succeeded
  rcases reported.2.1 with rfl | rfl
  · exact reported_of_mem_fnLockSet second 0 (mem_of_done later)
  · exact reported_of_mem_fnLockSet second 1 (mem_of_done later)

end Sent

/-! ### The lock follows the firmware -/

/-- Both reads of the lock store what the firmware reports, and what its two
users send consists of the two status bytes that it has just reported and,
for the event, of the other setting than the one it reported. -/
structure FnLockFollowsFirmware : Prop where
  get : FnGetReports activeClevoInterface firmware state
  getAgain :
    ((clevoAcpiFnGet activeClevoInterface).run firmware state).1.1 = 0 →
      FnGetReports activeClevoInterface firmware
        (afterFnGet activeClevoInterface firmware state)
  lockSet :
    ∀ (on : Int) (function : U64) (arg : List U8)
      (answer : Option AcpiObject),
      (⟨.acpiEvaluateDsm function (.buffer arg), answer⟩ :
          Event clevoSignature) ∈
        (clevoAcpiFnLockSet activeClevoInterface on).trace firmware
          state →
        ∃ fnlock kbstatus1 kbstatus2,
          FnReported activeClevoInterface firmware state fnlock kbstatus1
              kbstatus2 ∧
            arg = fnLockArgs on kbstatus1 kbstatus2
  toggle :
    ∀ (function : U64) (arg : List U8) (answer : Option AcpiObject),
      (⟨.acpiEvaluateDsm function (.buffer arg), answer⟩ :
          Event clevoSignature) ∈
        (toggleFnLock activeClevoInterface).trace firmware state →
        ∃ fnlock earlier1 earlier2,
          FnReported activeClevoInterface firmware state fnlock earlier1
              earlier2 ∧
            ∃ later kbstatus1 kbstatus2,
              FnReported activeClevoInterface firmware
                  (afterFnGet activeClevoInterface firmware state) later
                  kbstatus1 kbstatus2 ∧
                arg =
                  fnLockArgs (if fnlock = 1 then 0 else 1) kbstatus1
                    kbstatus2

variable {activeClevoInterface firmware state} in
theorem FnReported.get_eq_zero {fnlock kbstatus1 kbstatus2 : U8}
    (reported : FnReported activeClevoInterface firmware state fnlock
      kbstatus1 kbstatus2) :
    ((clevoAcpiFnGet activeClevoInterface).run firmware state).1.1 =
      0 := by
  obtain ⟨success, known, rest, stored⟩ := reported
  rw [run_clevoAcpiFnGet_object activeClevoInterface firmware state success
    stored, fnGetResult_known known]

/-- The lock follows the firmware exactly if each of the two evaluations
fails or returns a buffer of at least three bytes; the second one only
happens after the first has reported a lock. -/
theorem fnLockFollowsFirmware_iff :
    FnLockFollowsFirmware activeClevoInterface firmware state ↔
      FnAnswerUsable activeClevoInterface firmware state ∧
        ((∃ fnlock kbstatus1 kbstatus2,
            FnReported activeClevoInterface firmware state fnlock kbstatus1
              kbstatus2) →
          FnAnswerUsable activeClevoInterface firmware
            (afterFnGet activeClevoInterface firmware state)) := by
  constructor
  · intro follows
    have usable :=
      (fnGetReports_iff activeClevoInterface firmware state).mp follows.get
    refine ⟨usable, ?_⟩
    rintro ⟨fnlock, kbstatus1, kbstatus2, reported⟩
    have second := follows.getAgain reported.get_eq_zero
    exact (fnGetReports_iff activeClevoInterface firmware _).mp second
  · rintro ⟨usable, usableAgain⟩
    have first : FnGetReports activeClevoInterface firmware state :=
      (fnGetReports_iff activeClevoInterface firmware state).mpr usable
    have second :
        ((clevoAcpiFnGet activeClevoInterface).run firmware state).1.1 =
            0 →
          FnGetReports activeClevoInterface firmware
            (afterFnGet activeClevoInterface firmware state) := by
      intro returnsZero
      obtain ⟨fnlock, kbstatus1, kbstatus2, reported, -⟩ :=
        first returnsZero
      exact (fnGetReports_iff activeClevoInterface firmware _).mpr
        (usableAgain ⟨fnlock, kbstatus1, kbstatus2, reported⟩)
    exact
      { get := first
        getAgain := second
        lockSet := fun on _ _ _ member =>
          reported_of_mem_fnLockSet first on member
        toggle := fun _ _ _ member =>
          reported_of_mem_toggleFnLock first second member }

end FnLock

/-- Firmware that answers every evaluation with an integer. -/
def integerFirmware : Firmware Unit
  | .wmiEvaluateMethod _ _, _ => (.success (some (.integer 0)), ())
  | .acpiEvaluateDsm _ _, _ => (some (.integer 0), ())
  | .activeDriverData, _ => (true, ())
  | .acpiDeviceHandle, _ => (true, ())
  | .strayObject, _ => (.other, ())
  | .strayByte, _ => (0xaa, ())
  | .acpiFree _, _ => ((), ())

/-- The read succeeds without a value, and the lock is set with what the
status variables happen to hold. -/
theorem clevoAcpiFnGet_stray :
    ((clevoAcpiFnGet (some .acpi)).run integerFirmware ()).1 = (0, {}) ∧
      (⟨.acpiEvaluateDsm 0x4 (.buffer [0x19, 0x01, 0xaa, 0xaa]),
          some (.integer 0)⟩ : Event clevoSignature) ∈
        (clevoAcpiFnLockSet (some .acpi) 1).trace integerFirmware () ∧
      ¬ FnLockFollowsFirmware (some .acpi) integerFirmware () := by
  have returnsNothing :
      ((clevoAcpiFnGet (some .acpi)).run integerFirmware ()).1 =
        (0, {}) := by
    rfl
  refine ⟨returnsNothing, ?_, fun follows => ?_⟩
  · have sent :
        ((clevoAcpiFnLockSet (some .acpi) 1).trace integerFirmware ())[7]? =
          some ⟨.acpiEvaluateDsm 0x4 (.buffer [0x19, 0x01, 0xaa, 0xaa]),
            some (.integer 0)⟩ := by
      rfl
    exact List.mem_of_getElem? sent
  · obtain ⟨fnlock, kbstatus1, kbstatus2, -, stored⟩ :=
      follows.get (congrArg Prod.fst returnsNothing)
    rw [returnsNothing] at stored
    cases stored

end TuxedoDrivers.Clevo
