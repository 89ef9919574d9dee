import TuxedoDrivers.Interaction.Program
import TuxedoDrivers.Kernel

/-!
# Clevo firmware methods

The WMI and the ACPI back end of `clevo_wmi.c` and `clevo_acpi.c`, the calls
of the active interface in `clevo_keyboard.h`, and the two callers that set
something with a buffer argument.

A caller passes the address of a local pointer for the returned object.  A
pointer nobody has stored to is `none`; what lies at such a pointer, and in a
byte nobody has stored to, is asked of the environment.
-/

namespace TuxedoDrivers.Clevo

open Interaction

/-! ## Requests -/

/-- `union acpi_object`, with the types that the driver tells apart. -/
inductive AcpiObject where
  | integer (value : U64)
  | buffer (bytes : List U8)
  | other
  deriving DecidableEq, Repr

/-- What `wmi_evaluate_method` returns: the ACPI status, and on success the
object in the output buffer. -/
inductive WmiReply where
  | failure
  | success (object : Option AcpiObject)
  deriving DecidableEq, Repr

/-- The package of one element that `_DSM` gets. -/
inductive DsmArgument where
  | integer (value : U64)
  | buffer (bytes : List U8)
  deriving DecidableEq, Repr

inductive ClevoRequest where
  | wmiEvaluateMethod (methodId arg : U32)
  | acpiEvaluateDsm (function : U64) (argument : DsmArgument)
  | activeDriverData
  | acpiDeviceHandle
  | strayObject
  | strayByte
  | acpiFree (object : Option AcpiObject)

/-- The two pointers answer whether they are set. -/
abbrev ClevoRequest.Answer : ClevoRequest → Type
  | .wmiEvaluateMethod _ _ => WmiReply
  | .acpiEvaluateDsm _ _ => Option AcpiObject
  | .activeDriverData => Bool
  | .acpiDeviceHandle => Bool
  | .strayObject => AcpiObject
  | .strayByte => U8
  | .acpiFree _ => Unit

abbrev clevoSignature : Signature :=
  ⟨ClevoRequest, ClevoRequest.Answer⟩

abbrev Call (α : Type) : Type :=
  Program clevoSignature α

/-- Firmware with the state that the back ends look at. -/
abbrev Firmware (σ : Type) : Type :=
  Environment clevoSignature σ

def wmiEvaluateMethod (methodId arg : U32) : Call WmiReply :=
  Program.request (S := clevoSignature) (.wmiEvaluateMethod methodId arg)

def acpiEvaluateDsm (function : U64) (argument : DsmArgument) :
    Call (Option AcpiObject) :=
  Program.request (S := clevoSignature) (.acpiEvaluateDsm function argument)

/-- Whether `active_driver_data` is set. -/
def activeDriverData : Call Bool :=
  Program.request (S := clevoSignature) .activeDriverData

/-- Whether `acpi_device_handle` finds a handle. -/
def acpiDeviceHandle : Call Bool :=
  Program.request (S := clevoSignature) .acpiDeviceHandle

def strayObject : Call AcpiObject :=
  Program.request (S := clevoSignature) .strayObject

def strayByte : Call U8 :=
  Program.request (S := clevoSignature) .strayByte

/-- `ACPI_FREE`. -/
def acpiFree (object : Option AcpiObject) : Call Unit :=
  Program.request (S := clevoSignature) (.acpiFree object)

section Rules

variable {σ : Type} (firmware : Firmware σ) (state : σ)

@[simp]
theorem run_wmiEvaluateMethod (methodId arg : U32) :
    (wmiEvaluateMethod methodId arg).run firmware state =
      firmware (.wmiEvaluateMethod methodId arg) state :=
  (rfl)

@[simp]
theorem trace_wmiEvaluateMethod (methodId arg : U32) :
    (wmiEvaluateMethod methodId arg).trace firmware state =
      [⟨.wmiEvaluateMethod methodId arg,
        (firmware (.wmiEvaluateMethod methodId arg) state).1⟩] :=
  (rfl)

@[simp]
theorem run_acpiEvaluateDsm (function : U64) (argument : DsmArgument) :
    (acpiEvaluateDsm function argument).run firmware state =
      firmware (.acpiEvaluateDsm function argument) state :=
  (rfl)

@[simp]
theorem trace_acpiEvaluateDsm (function : U64) (argument : DsmArgument) :
    (acpiEvaluateDsm function argument).trace firmware state =
      [⟨.acpiEvaluateDsm function argument,
        (firmware (.acpiEvaluateDsm function argument) state).1⟩] :=
  (rfl)

@[simp]
theorem run_activeDriverData :
    activeDriverData.run firmware state =
      firmware .activeDriverData state :=
  (rfl)

@[simp]
theorem run_acpiDeviceHandle :
    acpiDeviceHandle.run firmware state =
      firmware .acpiDeviceHandle state :=
  (rfl)

@[simp]
theorem trace_acpiDeviceHandle :
    acpiDeviceHandle.trace firmware state =
      [⟨.acpiDeviceHandle, (firmware .acpiDeviceHandle state).1⟩] :=
  (rfl)

@[simp]
theorem trace_acpiFree (object : Option AcpiObject) :
    (acpiFree object).trace firmware state =
      [⟨.acpiFree object, (firmware (.acpiFree object) state).1⟩] :=
  (rfl)

end Rules

/-! ## Back ends -/

/-- The status of a call, and what it stored in `*result`. -/
structure MethodReturn where
  status : Int
  stored : Option AcpiObject
  deriving DecidableEq, Repr

/-- `result` is whether the caller passes an address. -/
def clevoWmiEvaluate (wmiMethodId wmiArg : U32) (result : Bool) :
    Call MethodReturn := do
  match ← wmiEvaluateMethod wmiMethodId wmiArg with
  | .failure => return ⟨-eio, none⟩
  | .success none => return ⟨-1, none⟩
  | .success (some object) =>
      return ⟨0, if result = true then some object else none⟩

def clevoWmiInterfaceMethodCall (cmd : U8) (arg : U32) (result : Bool) :
    Call MethodReturn :=
  clevoWmiEvaluate (cmd.setWidth 32) arg result

/-- Not supported: the command is ignored. -/
def clevoWmiInterfaceMethodCallPkgbuf (_cmd : U8) (_arg : List U8)
    (_result : Bool) : Call MethodReturn :=
  pure ⟨0, none⟩

def clevoAcpiDsmUuid : String :=
  "93f224e4-fbdc-4bbf-add6-db71bdc0afad"

def isxdigit (character : Char) : Bool :=
  character.isDigit || decide (character.toLower ∈ "abcdef".toList)

def uuidIsValid (uuid : String) : Bool :=
  decide (36 ≤ uuid.toList.length) &&
    (uuid.toList.take 36).zipIdx.all fun entry =>
      if entry.2 ∈ [8, 13, 18, 23] then entry.1 == '-'
      else isxdigit entry.1

/-- The status of `guid_parse`. -/
def guidParse (uuid : String) : Int :=
  if uuidIsValid uuid = true then 0 else -einval

/-- The common text of `clevo_acpi_evaluate` and
`clevo_acpi_evaluate_pkgbuf`, which differ in the argument they pack. -/
def clevoAcpiEvaluateDsm (cmd : U8) (argument : DsmArgument)
    (result : Bool) : Call MethodReturn := do
  if guidParse clevoAcpiDsmUuid < 0 then
    return ⟨-enoent, none⟩
  else
    let handle ← acpiDeviceHandle
    if handle = false then
      return ⟨-enodev, none⟩
    else
      match ← acpiEvaluateDsm (cmd.setWidth 64) argument with
      | none => return ⟨-1, none⟩
      | some object =>
          let stored := if result = true then some object else none
          return ⟨guidParse clevoAcpiDsmUuid, stored⟩

def clevoAcpiEvaluate (cmd : U8) (arg : U32) (result : Bool) :
    Call MethodReturn :=
  clevoAcpiEvaluateDsm cmd (.integer (arg.setWidth 64)) result

def clevoAcpiEvaluatePkgbuf (cmd : U8) (arg : List U8) (result : Bool) :
    Call MethodReturn :=
  clevoAcpiEvaluateDsm cmd (.buffer arg) result

def clevoAcpiInterfaceMethodCall (cmd : U8) (arg : U32) (result : Bool) :
    Call MethodReturn := do
  let present ← activeDriverData
  if present = true then
    clevoAcpiEvaluate cmd arg result
  else
    return ⟨-enodata, none⟩

def clevoAcpiInterfaceMethodCallPkgbuf (cmd : U8) (arg : List U8)
    (result : Bool) : Call MethodReturn := do
  let present ← activeDriverData
  if present = true then
    clevoAcpiEvaluatePkgbuf cmd arg result
  else
    return ⟨-enodata, none⟩

/-! ## The active interface -/

/-- The two interface objects. -/
inductive ClevoInterface where
  | wmi
  | acpi
  deriving DecidableEq, Repr

namespace ClevoInterface

def stringId : ClevoInterface → String
  | .wmi => "clevo_wmi"
  | .acpi => "clevo_acpi"

def methodCall : ClevoInterface → U8 → U32 → Bool → Call MethodReturn
  | .wmi => clevoWmiInterfaceMethodCall
  | .acpi => clevoAcpiInterfaceMethodCall

def methodCallPkgbuf :
    ClevoInterface → U8 → List U8 → Bool → Call MethodReturn
  | .wmi => clevoWmiInterfaceMethodCallPkgbuf
  | .acpi => clevoAcpiInterfaceMethodCallPkgbuf

end ClevoInterface

section Dispatch

variable (activeClevoInterface : Option ClevoInterface)

def clevoEvaluateMethod2 (cmd : U8) (arg : U32) (result : Bool) :
    Call MethodReturn :=
  match activeClevoInterface with
  | none => pure ⟨-enodev, none⟩
  | some interface => interface.methodCall cmd arg result

def clevoEvaluateMethodPkgbuf (cmd : U8) (arg : List U8) (result : Bool) :
    Call MethodReturn :=
  match activeClevoInterface with
  | none => pure ⟨-enodev, none⟩
  | some interface => interface.methodCallPkgbuf cmd arg result

/-- What a pointer leads to. -/
def readObject : Option AcpiObject → Call AcpiObject
  | some object => pure object
  | none => strayObject

/-- Status and `*result`. -/
def clevoEvaluateMethod (cmd : U8) (arg : U32) :
    Call (Int × Option U32) := do
  let reply ← clevoEvaluateMethod2 activeClevoInterface cmd arg true
  if reply.status ≠ 0 then
    return (reply.status, none)
  else
    let object ← readObject reply.stored
    acpiFree reply.stored
    match object with
    | .integer value => return (reply.status, some (value.setWidth 32))
    | .buffer _ | .other => return (-enodata, none)

end Dispatch

/-! ## What a call asks -/

/-- The requests of a call of this method with this package. -/
def CallRequest (cmd : U8) (argument : DsmArgument) : ClevoRequest → Prop
  | .wmiEvaluateMethod methodId _ => methodId = cmd.setWidth 32
  | .acpiEvaluateDsm function package =>
      function = cmd.setWidth 64 ∧ package = argument
  | .activeDriverData | .acpiDeviceHandle => True
  | .strayObject | .strayByte | .acpiFree _ => False

section Asks

variable (cmd : U8) (result : Bool)

theorem clevoAcpiEvaluateDsm_asks (argument : DsmArgument) :
    (clevoAcpiEvaluateDsm cmd argument result).Asks
      (CallRequest cmd argument) := by
  refine Program.Asks.ite (fun _ => trivial) fun _ => ?_
  refine Program.Asks.bind ⟨trivial, fun _ => trivial⟩ fun handle => ?_
  refine Program.Asks.ite (fun _ => trivial) fun _ => ?_
  refine Program.Asks.bind ⟨⟨rfl, rfl⟩, fun _ => trivial⟩ fun object => ?_
  cases object with
  | none =>
      trivial
  | some object =>
      trivial

theorem ClevoInterface.methodCall_asks (interface : ClevoInterface)
    (arg : U32) :
    (interface.methodCall cmd arg result).Asks
      (CallRequest cmd (.integer (arg.setWidth 64))) := by
  cases interface with
  | wmi =>
      refine Program.Asks.bind ⟨rfl, fun _ => trivial⟩ fun reply => ?_
      rcases reply with _ | _ | object <;> trivial
  | acpi =>
      refine
        Program.Asks.bind ⟨trivial, fun _ => trivial⟩ fun present => ?_
      refine Program.Asks.ite (fun _ => ?_) fun _ => trivial
      exact clevoAcpiEvaluateDsm_asks cmd result _

theorem ClevoInterface.methodCallPkgbuf_asks (interface : ClevoInterface)
    (arg : List U8) :
    (interface.methodCallPkgbuf cmd arg result).Asks
      (CallRequest cmd (.buffer arg)) := by
  cases interface with
  | wmi =>
      trivial
  | acpi =>
      refine
        Program.Asks.bind ⟨trivial, fun _ => trivial⟩ fun present => ?_
      refine Program.Asks.ite (fun _ => ?_) fun _ => trivial
      exact clevoAcpiEvaluateDsm_asks cmd result _

variable (activeClevoInterface : Option ClevoInterface)

theorem clevoEvaluateMethod2_asks (arg : U32) :
    (clevoEvaluateMethod2 activeClevoInterface cmd arg result).Asks
      (CallRequest cmd (.integer (arg.setWidth 64))) := by
  cases activeClevoInterface with
  | none =>
      trivial
  | some interface =>
      exact interface.methodCall_asks cmd result arg

theorem clevoEvaluateMethodPkgbuf_asks (arg : List U8) :
    (clevoEvaluateMethodPkgbuf activeClevoInterface cmd arg result).Asks
      (CallRequest cmd (.buffer arg)) := by
  cases activeClevoInterface with
  | none =>
      trivial
  | some interface =>
      exact interface.methodCallPkgbuf_asks cmd result arg

end Asks

end TuxedoDrivers.Clevo
