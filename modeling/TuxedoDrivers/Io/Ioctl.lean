import TuxedoDrivers.Io.Tdp

/-!
# The ioctl interface

`fop_ioctl` of `tuxedo_io.c` with its two dispatchers.  Every command goes
through all of them, on every machine.  What the dispatchers call outside of
the module is a request to the kernel, which also copies to and from user
space.  So are `uw_set_tdp` and `uw_set_performance_profile_v1`, which use the
EC.
-/

namespace TuxedoDrivers.Io.Ioctl

open Interaction Uniwill

/-! ## Commands -/

/-- The commands of `tuxedo_io_ioctl.h`, and any other number. -/
inductive IoctlCommand where
  | rModVersion
  | rHwcheckCl
  | rHwcheckUw
  | rClHwIfStr
  | rClFaninfo1
  | rClFaninfo2
  | rClFaninfo3
  | rClWebcamSw
  | rClFlightmodeSw
  | rClTouchpadSw
  | wClFanspeed
  | wClFanauto
  | wClWebcamSw
  | wClFlightmodeSw
  | wClTouchpadSw
  | wClPerfProfile
  | rUwHwIfStr
  | rUwModelId
  | rUwFanspeed
  | rUwFanspeed2
  | rUwFanTemp
  | rUwFanTemp2
  | rUwMode
  | rUwModeEnable
  | rUwFansOffAvailable
  | rUwFansMinSpeed
  | rUwTdp0
  | rUwTdp1
  | rUwTdp2
  | rUwTdp0Min
  | rUwTdp1Min
  | rUwTdp2Min
  | rUwTdp0Max
  | rUwTdp1Max
  | rUwTdp2Max
  | rUwProfsAvailable
  | wUwFanspeed
  | wUwFanspeed2
  | wUwMode
  | wUwModeEnable
  | wUwFanauto
  | wUwTdp0
  | wUwTdp1
  | wUwTdp2
  | wUwPerfProf
  | other (number : U32)
  deriving DecidableEq, Repr

/-! ## Requests -/

inductive UserData where
  | text (string : String)
  | word (value : U32)
  deriving DecidableEq, Repr

/-- `copy_from_user` into `argument`: the number of bytes it did not copy, and
what the variable then holds.  The kernel clears what it could not copy. -/
structure CopyReturn where
  notCopied : U32
  argument : U32
  deriving DecidableEq, Repr

/-- What an operation reports, and whether it issued an EC write or a
firmware command. -/
structure OperationReturn (α : Type) where
  report : α
  issued : Bool
  deriving DecidableEq, Repr

inductive IoKernelRequest where
  | copyToUser (address : U64) (data : UserData)
  | copyFromUser (address : U64)
  | clevoGetActiveInterfaceId
  | clevoEvaluateMethod (cmd : U8) (arg : U32)
  | uniwillGetActiveInterfaceId
  | uniwillGetDeviceFeatures
  | uniwillReadEcRam (address : U16)
  | uniwillWriteEcRam (address : U16) (data : U8)
  | uwSetFan (fanIndex : U32) (fanSpeed : U8)
  | uwSetFanAuto
  | uwSetTdp (defs : TdpPointers) (tdpIndex : U8) (tdpValue : Int)
  | uwSetPerformanceProfileV1 (profile : U32)
  | msleep (milliseconds : Nat)
  deriving DecidableEq, Repr

/-- `clevo_evaluate_method` answers with its status and `*result`, the
identifiers of the interfaces are missing when there is none. -/
abbrev IoKernelRequest.Answer : IoKernelRequest → Type
  | .copyToUser _ _ => U32
  | .copyFromUser _ => CopyReturn
  | .clevoGetActiveInterfaceId => Option String
  | .clevoEvaluateMethod _ _ => OperationReturn (Int × Option U32)
  | .uniwillGetActiveInterfaceId => Option String
  | .uniwillGetDeviceFeatures => Unit
  | .uniwillReadEcRam _ => EcRead
  | .uniwillWriteEcRam _ _ => OperationReturn Int
  | .uwSetFan _ _ => OperationReturn U32
  | .uwSetFanAuto => U32
  | .uwSetTdp _ _ _ => OperationReturn Int
  | .uwSetPerformanceProfileV1 _ => OperationReturn U32
  | .msleep _ => Unit

abbrev ioKernelSignature : Signature :=
  ⟨IoKernelRequest, IoKernelRequest.Answer⟩

/-- The static variables.  `uwFeats` is whether `uw_feats` is set. -/
structure IoStatics where
  idCheckClevo : U32 := 0
  idCheckUniwill : U32 := 0
  uwFeats : Bool := false
  tdpMinDefs : Option (Vector Int 3) := none
  tdpMaxDefs : Option (Vector Int 3) := none
  deriving DecidableEq, Repr

def IoStatics.tdpDefs (statics : IoStatics) : TdpPointers :=
  ⟨statics.tdpMinDefs, statics.tdpMaxDefs⟩

/-- A request to the kernel, the structure behind `uw_feats` (whether the
pointer is set or not), or an access to the static variables. -/
inductive IoRequest where
  | kernel (request : IoKernelRequest)
  | features (uwFeats : Bool)
  | statics (update : IoStatics → IoStatics)

abbrev IoRequest.Answer : IoRequest → Type
  | .kernel request => request.Answer
  | .features _ => DeviceFeatures
  | .statics _ => IoStatics

abbrev ioSignature : Signature :=
  ⟨IoRequest, IoRequest.Answer⟩

abbrev Handler (α : Type) : Type :=
  Program ioSignature α

def kernel (request : IoKernelRequest) : Handler request.Answer :=
  Program.request (S := ioSignature) (.kernel request)

def getStatics : Handler IoStatics :=
  Program.request (S := ioSignature) (.statics id)

def setStatics (update : IoStatics → IoStatics) : Handler Unit := do
  let _ ← Program.request (S := ioSignature) (.statics update)
  return ()

/-- What `uw_feats` points to. -/
def derefUwFeats : Handler DeviceFeatures := do
  let statics ← getStatics
  Program.request (S := ioSignature) (.features statics.uwFeats)

/-- The rest of the kernel: how it answers requests, the features of the
Uniwill driver, and what lies at address zero. -/
structure IoWorld (σ : Type) where
  kernel : Environment ioKernelSignature σ
  deviceFeatures : σ → DeviceFeatures
  strayFeatures : σ → DeviceFeatures

def ioEnvironment {σ : Type} (world : IoWorld σ) :
    Environment ioSignature (IoStatics × σ)
  | .kernel request, (statics, state) =>
      ((world.kernel request state).1, statics,
        (world.kernel request state).2)
  | .features uwFeats, (statics, state) =>
      (if uwFeats = true then world.deviceFeatures state
        else world.strayFeatures state,
        statics, state)
  | .statics update, (statics, state) => (statics, update statics, state)

section Rules

variable {σ : Type} (world : IoWorld σ) (state : IoStatics × σ)

@[simp]
theorem run_getStatics :
    getStatics.run (ioEnvironment world) state = (state.1, state) :=
  (rfl)

@[simp]
theorem trace_getStatics :
    getStatics.trace (ioEnvironment world) state =
      [⟨.statics id, state.1⟩] :=
  (rfl)

@[simp]
theorem run_derefUwFeats :
    derefUwFeats.run (ioEnvironment world) state =
      (if state.1.uwFeats = true then world.deviceFeatures state.2
        else world.strayFeatures state.2,
        state) :=
  (rfl)

@[simp]
theorem trace_derefUwFeats :
    derefUwFeats.trace (ioEnvironment world) state =
      [⟨.statics id, state.1⟩,
        ⟨.features state.1.uwFeats,
          if state.1.uwFeats = true then world.deviceFeatures state.2
          else world.strayFeatures state.2⟩] :=
  (rfl)

end Rules

/-! ## User space -/

def copyText (arg : U64) (string : String) : Handler Unit := do
  let _ ← kernel (.copyToUser arg (.text string))
  return

def copyWord (arg : U64) (result : U32) : Handler Unit := do
  let _ ← kernel (.copyToUser arg (.word result))
  return

/-- The argument of a command; the dispatchers do not look at the number of
bytes that were not copied. -/
def copyArgument (arg : U64) : Handler U32 := do
  let copied ← kernel (.copyFromUser arg)
  return copied.argument

/-! ## Hardware identification -/

def clevoIdentify : Handler U32 := do
  let active ← kernel .clevoGetActiveInterfaceId
  return if active.isSome = true then 1 else 0

/-- The assignments of `uniwill_identify` when there is an interface. -/
def identifyUniwillDevice (dmi : Dmi) : Handler Unit := do
  kernel .uniwillGetDeviceFeatures
  setStatics fun statics => { statics with uwFeats := true }
  let features ← derefUwFeats
  let defs := uwIdTdp features.model dmi
  setStatics fun statics => { statics with tdpMinDefs := defs.min }
  setStatics fun statics => { statics with tdpMaxDefs := defs.max }

def uniwillIdentify (dmi : Dmi) : Handler U32 := do
  let active ← kernel .uniwillGetActiveInterfaceId
  if active.isSome = true then
    identifyUniwillDevice dmi
    return 1
  else
    return 0

/-- `tuxedo_io_init`, up to the character device. -/
def tuxedoIoInit (dmi : Dmi) : Handler Unit := do
  let clevo ← clevoIdentify
  setStatics fun statics => { statics with idCheckClevo := clevo }
  let uniwill ← uniwillIdentify dmi
  setStatics fun statics => { statics with idCheckUniwill := uniwill }

/-! ## Clevo commands -/

def clevoCmdGetFaninfo1 : U8 := 0x63
def clevoCmdGetFaninfo2 : U8 := 0x64
def clevoCmdGetFaninfo3 : U8 := 0x6e
def clevoCmdGetWebcamSw : U8 := 0x06
def clevoCmdGetFlightmodeSw : U8 := 0x07
def clevoCmdGetTouchpadSw : U8 := 0x09
def clevoCmdSetFanspeedValue : U8 := 0x68
def clevoCmdSetFanspeedAuto : U8 := 0x69
def clevoCmdSetWebcamSw : U8 := 0x22
def clevoCmdSetFlightmodeSw : U8 := 0x20
def clevoCmdSetTouchpadSw : U8 := 0x2a
def clevoCmdOpt : U8 := 0x79
def clevoCmdOptSubSetPerfProf : U32 := 0x19

/-- A method call without an argument, its result copied out. -/
def readMethod (cmd : U8) (arg : U64) : Handler Unit := do
  let evaluated ← kernel (.clevoEvaluateMethod cmd 0)
  copyWord arg (evaluated.report.2.getD 0)

/-- The devices on which `R_CL_WEBCAM_SW` is refused. -/
def webcamReadRefused (dmi : Dmi) : Bool :=
  dmiMatchAny dmi
    [(.productSku, "AURA14GEN3"), (.productSku, "AURA15GEN3"),
      (.productSku, "AURA14GEN4 / AURA15GEN4")]

/-- The devices on which `W_CL_WEBCAM_SW` is refused. -/
def webcamWriteRefused (dmi : Dmi) : Bool :=
  dmiMatchAny dmi
    [(.productSku, "AURA14GEN3"), (.productSku, "AURA15GEN3")]

/-- The first `switch` of `clevo_ioctl_interface`; `some` where it
returns. -/
def clevoReadCommand (dmi : Dmi) (arg : U64) :
    IoctlCommand → Handler (Option Int)
  | .rClHwIfStr => do
      let active ← kernel .clevoGetActiveInterfaceId
      copyText arg (active.getD "")
      return none
  | .rClFaninfo1 => do
      readMethod clevoCmdGetFaninfo1 arg
      return none
  | .rClFaninfo2 => do
      readMethod clevoCmdGetFaninfo2 arg
      return none
  | .rClFaninfo3 => do
      readMethod clevoCmdGetFaninfo3 arg
      return none
  | .rClWebcamSw =>
      if webcamReadRefused dmi = true then
        return some (-enodev)
      else do
        readMethod clevoCmdGetWebcamSw arg
        return none
  | .rClFlightmodeSw => do
      readMethod clevoCmdGetFlightmodeSw arg
      return none
  | .rClTouchpadSw => do
      readMethod clevoCmdGetTouchpadSw arg
      return none
  | _ => return none

def fanOnMinSpeedPercent : Nat := 25
def nb01FanSpeedMax : Nat := 0xff

/-- No values between fan off and the minimum speed. -/
def raiseFanspeed (fanspeed : U8) : U8 :=
  if fanspeed.toNat < fanOnMinSpeedPercent * nb01FanSpeedMax / 2 / 100 then
    0
  else if fanspeed.toNat < fanOnMinSpeedPercent * nb01FanSpeedMax / 100 then
    BitVec.ofNat 8 (fanOnMinSpeedPercent * nb01FanSpeedMax / 100)
  else
    fanspeed

/-- The speed of the fan with index `i`, as an `int`. -/
def fanspeedOf (argument : U32) (i : Nat) : U32 :=
  (raiseFanspeed ((argument >>> (8 * i)).setWidth 8)).setWidth 32

/-- The argument with the speeds raised. -/
def fanspeedArgument (argument : U32) : U32 :=
  fanspeedOf argument 0 ||| fanspeedOf argument 1 <<< 8 |||
    fanspeedOf argument 2 <<< 16

def perfProfileArgument (argument : U32) : U32 :=
  clevoCmdOptSubSetPerfProf <<< 0x18 ||| argument &&& 0xff

/-- A method call that gets an argument from user space. -/
def writeMethod (cmd : U8) (toArgument : U32 → U32) (arg : U64) :
    Handler Unit := do
  let argument ← copyArgument arg
  let _ ← kernel (.clevoEvaluateMethod cmd (toArgument argument))
  return

/-- The switch is set only if it has not the right value already. -/
def writeWebcamSw (arg : U64) : Handler Unit := do
  let argument ← copyArgument arg
  let current ← kernel (.clevoEvaluateMethod clevoCmdGetWebcamSw 0)
  if argument &&& 0x01 ≠ current.report.2.getD 0 &&& 0x01 then
    let _ ← kernel (.clevoEvaluateMethod clevoCmdSetWebcamSw argument)
    return
  else
    return

/-- The second `switch` of `clevo_ioctl_interface`. -/
def clevoWriteCommand (dmi : Dmi) (arg : U64) :
    IoctlCommand → Handler (Option Int)
  | .wClFanspeed => do
      writeMethod clevoCmdSetFanspeedValue fanspeedArgument arg
      kernel (.msleep 100)
      return none
  | .wClFanauto => do
      writeMethod clevoCmdSetFanspeedAuto id arg
      return none
  | .wClWebcamSw =>
      if webcamWriteRefused dmi = true then
        return some (-enodev)
      else do
        writeWebcamSw arg
        return none
  | .wClFlightmodeSw => do
      writeMethod clevoCmdSetFlightmodeSw id arg
      return none
  | .wClTouchpadSw => do
      writeMethod clevoCmdSetTouchpadSw id arg
      return none
  | .wClPerfProfile => do
      writeMethod clevoCmdOpt perfProfileArgument arg
      return none
  | _ => return none

def clevoIoctlInterface (dmi : Dmi) (command : IoctlCommand) (arg : U64) :
    Handler Int := do
  match ← clevoReadCommand dmi arg command with
  | some status => return status
  | none => do
      let returned ← clevoWriteCommand dmi arg command
      return returned.getD 0

/-! ## Uniwill commands -/

/-- The end of `uw_get_tdp`; the third limit needs `uw_feats`. -/
def tdpValueOf (tdpIndex tdpData : U8) : Handler Int := do
  if tdpIndex = 2 then
    let features ← derefUwFeats
    if features.uniwillHasDoublePl4 = true then
      return (tdpData.toNat : Int) * 2
    else
      return (tdpData.toNat : Int)
  else
    return (tdpData.toNat : Int)

def uwGetTdp (tdpIndex : U8) : Handler Int := do
  let statics ← getStatics
  if uwGetTdpMin statics.tdpDefs tdpIndex < 0 then
    return uwGetTdpMin statics.tdpDefs tdpIndex
  else
    let tdpData ← kernel (.uniwillReadEcRam (tdpCurrentAddr tdpIndex))
    if tdpData.status < 0 then
      return tdpData.status
    else
      tdpValueOf tdpIndex tdpData.data

/-- `uw_set_tdp`, which looks at `uw_feats` before anything else. -/
def uwSetTdp (tdpIndex : U8) (tdpValue : Int) :
    Handler (OperationReturn Int) := do
  let _ ← derefUwFeats
  let statics ← getStatics
  kernel (.uwSetTdp statics.tdpDefs tdpIndex tdpValue)

def readEcRam (address : U16) (arg : U64) : Handler Unit := do
  let read ← kernel (.uniwillReadEcRam address)
  copyWord arg (read.data.setWidth 32)

/-- The speed 1 stands for 0 on devices with universal fan control. -/
def shownFanspeed (features : DeviceFeatures) (byteData : U8) : U8 :=
  if features.uniwillHasUniversalEcFanControl = true ∧ byteData = 1 then 0
  else byteData

def readFanspeed (address : U16) (arg : U64) : Handler Unit := do
  let read ← kernel (.uniwillReadEcRam address)
  let features ← derefUwFeats
  copyWord arg ((shownFanspeed features read.data).setWidth 32)

def readTdp (tdpIndex : U8) (arg : U64) : Handler Unit := do
  let result ← uwGetTdp tdpIndex
  copyWord arg (BitVec.ofInt 32 result)

/-- `bound` is `uw_get_tdp_min` or `uw_get_tdp_max`. -/
def readTdpBound (bound : TdpPointers → U8 → Int) (tdpIndex : U8)
    (arg : U64) : Handler Unit := do
  let statics ← getStatics
  copyWord arg (BitVec.ofInt 32 (bound statics.tdpDefs tdpIndex))

def profsAvailable (features : DeviceFeatures) : U32 :=
  if features.uniwillProfileV1TwoProfs = true then 2
  else if features.uniwillProfileV1ThreeProfs = true ∨
      features.uniwillProfileV1ThreeProfsLedsOnly = true then 3
  else 0

/-- The first `switch` of `uniwill_ioctl_interface`. -/
def uniwillReadCommand (arg : U64) : IoctlCommand → Handler Unit
  | .rUwHwIfStr => do
      let active ← kernel .uniwillGetActiveInterfaceId
      copyText arg (active.getD "")
  | .rUwModelId => do
      let features ← derefUwFeats
      copyWord arg (features.model.setWidth 32)
  | .rUwFanspeed => readFanspeed 0x1804 arg
  | .rUwFanspeed2 => readFanspeed 0x1809 arg
  | .rUwFanTemp => readEcRam 0x043e arg
  | .rUwFanTemp2 => readEcRam 0x044f arg
  | .rUwMode => readEcRam 0x0751 arg
  | .rUwModeEnable => readEcRam 0x0741 arg
  | .rUwFansOffAvailable => copyWord arg 1
  | .rUwFansMinSpeed => copyWord arg (BitVec.ofNat 32 fanOnMinSpeedPercent)
  | .rUwTdp0 => readTdp 0 arg
  | .rUwTdp1 => readTdp 1 arg
  | .rUwTdp2 => readTdp 2 arg
  | .rUwTdp0Min => readTdpBound uwGetTdpMin 0 arg
  | .rUwTdp1Min => readTdpBound uwGetTdpMin 1 arg
  | .rUwTdp2Min => readTdpBound uwGetTdpMin 2 arg
  | .rUwTdp0Max => readTdpBound uwGetTdpMax 0 arg
  | .rUwTdp1Max => readTdpBound uwGetTdpMax 1 arg
  | .rUwTdp2Max => readTdpBound uwGetTdpMax 2 arg
  | .rUwProfsAvailable => do
      let features ← derefUwFeats
      copyWord arg (profsAvailable features)
  | _ => return

def writeFanspeed (fanSelect : U32) (arg : U64) : Handler Unit := do
  let argument ← copyArgument arg
  let _ ← kernel (.uwSetFan fanSelect (argument.setWidth 8))
  return

def writeTdpCommand (tdpIndex : U8) (arg : U64) : Handler Unit := do
  let argument ← copyArgument arg
  let _ ← uwSetTdp tdpIndex argument.toInt
  return

/-- The second `switch` of `uniwill_ioctl_interface`.  The mode is not
enabled or disabled here. -/
def uniwillWriteCommand (arg : U64) : IoctlCommand → Handler Unit
  | .wUwFanspeed => writeFanspeed 0 arg
  | .wUwFanspeed2 => writeFanspeed 1 arg
  | .wUwMode => do
      let argument ← copyArgument arg
      let _ ← kernel (.uniwillWriteEcRam 0x0751 (argument.setWidth 8))
      return
  | .wUwModeEnable => return
  | .wUwFanauto => do
      let _ ← kernel .uwSetFanAuto
      return
  | .wUwTdp0 => writeTdpCommand 0 arg
  | .wUwTdp1 => writeTdpCommand 1 arg
  | .wUwTdp2 => writeTdpCommand 2 arg
  | .wUwPerfProf => do
      let argument ← copyArgument arg
      let _ ← kernel (.uwSetPerformanceProfileV1 argument)
      return
  | _ => return

def uniwillIoctlInterface (command : IoctlCommand) (arg : U64) :
    Handler Int := do
  uniwillReadCommand arg command
  uniwillWriteCommand arg command
  return 0

/-! ## All commands -/

def moduleVersion : String := "0.3.9"

/-- The `switch` of `fop_ioctl`. -/
def moduleCommand (dmi : Dmi) (arg : U64) : IoctlCommand → Handler Unit
  | .rModVersion => copyText arg moduleVersion
  | .rHwcheckCl => do
      let result ← clevoIdentify
      setStatics fun statics => { statics with idCheckClevo := result }
      copyWord arg result
  | .rHwcheckUw => do
      let result ← uniwillIdentify dmi
      setStatics fun statics => { statics with idCheckUniwill := result }
      copyWord arg result
  | _ => return

/-- The status of a dispatcher goes through a `u32`, and is 64 bits wide when
it is returned. -/
def throughU32 (status : Int) : Int :=
  ((BitVec.ofInt 32 status).toNat : Int)

def fopIoctl (dmi : Dmi) (command : IoctlCommand) (arg : U64) :
    Handler Int := do
  moduleCommand dmi arg command
  let clevo ← clevoIoctlInterface dmi command arg
  if throughU32 clevo ≠ 0 then
    return throughU32 clevo
  else
    let uniwill ← uniwillIoctlInterface command arg
    if throughU32 uniwill ≠ 0 then
      return throughU32 uniwill
    else
      return 0

end TuxedoDrivers.Io.Ioctl
