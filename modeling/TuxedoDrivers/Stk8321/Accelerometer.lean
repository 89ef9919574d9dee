import TuxedoDrivers.Interaction.Program
import TuxedoDrivers.Interaction.Writes
import TuxedoDrivers.Kernel

/-!
# The accelerometer

`stk8321.c`: the registers of the chip on its bus, the mount matrix that the
firmware tells, and the sampling frequency, which the driver keeps in an index
of its table.
-/

namespace TuxedoDrivers.Stk8321

open Interaction

/-! ## Requests -/

/-- What an ACPI method leaves in its buffer. -/
inductive AcpiObject where
  | buffer (bytes : List U8)
  | other
  deriving DecidableEq, Repr

/-- Writes to `rotation` of the mount matrix, by the index of the entry. -/
abbrev MatrixWrites : Type :=
  List (Nat × String)

inductive StkRequest where
  | devmIioDeviceAlloc
  | i2cSmbusReadByteData (register : U8)
  | i2cSmbusWriteByteData (register value : U8)
  | acpiCompanion
  | acpiHasMethod (methodName : String)
  /-- `acpi_evaluate_object`; a failure has no answer, and the buffer may be
  empty. -/
  | acpiEvaluateObject (methodName : String)
  /-- `iio_read_mount_matrix`, with what it writes. -/
  | iioReadMountMatrix
  | i2cAcpiNewDevice
  | devmIioDeviceRegister
  deriving DecidableEq, Repr

abbrev StkRequest.Answer : StkRequest → Type
  | .devmIioDeviceAlloc => Bool
  | .i2cSmbusReadByteData _ => Int
  | .i2cSmbusWriteByteData _ _ => Int
  | .acpiCompanion => Bool
  | .acpiHasMethod _ => Bool
  | .acpiEvaluateObject _ => Option (Option AcpiObject)
  | .iioReadMountMatrix => Int × MatrixWrites
  | .i2cAcpiNewDevice => Unit
  | .devmIioDeviceRegister => Int

abbrev stkSignature : Signature :=
  ⟨StkRequest, StkRequest.Answer⟩

abbrev Stk (α : Type) : Type :=
  Program stkSignature α

def request (item : StkRequest) : Stk item.Answer :=
  Program.request (S := stkSignature) item

/-! ## Registers -/

abbrev regXout1 : U8 := 0x02
abbrev regXout2 : U8 := 0x03
abbrev regYout1 : U8 := 0x04
abbrev regYout2 : U8 := 0x05
abbrev regZout1 : U8 := 0x06
abbrev regZout2 : U8 := 0x07
abbrev regRangesel : U8 := 0x0f
abbrev regBwsel : U8 := 0x10
abbrev regPowmode : U8 := 0x11
abbrev regDatasetup : U8 := 0x13
abbrev regSwrst : U8 := 0x14

abbrev rangesel2g : U8 := 0x03

abbrev powmodeNormal : U8 := 0x00
abbrev powmodeSuspend : U8 := 0x80

def stk8321SetRange (range : U8) : Stk Int :=
  request (.i2cSmbusWriteByteData regRangesel range)

def stk8321SetPowerMode (mode : U8) : Stk Int :=
  request (.i2cSmbusWriteByteData regPowmode mode)

def stk8321SetBandwidth (bw : U8) : Stk Int :=
  request (.i2cSmbusWriteByteData regBwsel bw)

/-- A byte that was read is not negative. -/
def stk8321ReadAxis (reg1 reg2 : U8) : Stk Int := do
  let lowByte ← request (.i2cSmbusReadByteData reg1)
  if lowByte < 0 then
    return lowByte
  else
    let highByte ← request (.i2cSmbusReadByteData reg2)
    if highByte < 0 then
      return highByte
    else
      return ((highByte.toNat <<< 4 ||| lowByte.toNat >>> 4 : Nat) : Int)

def stk8321ReadX : Stk Int :=
  stk8321ReadAxis regXout1 regXout2

def stk8321ReadY : Stk Int :=
  stk8321ReadAxis regYout1 regYout2

def stk8321ReadZ : Stk Int :=
  stk8321ReadAxis regZout1 regZout2

/-! ## Driver data -/

structure SampFreq where
  val : Int
  val2 : Int
  regBits : U8
  deriving DecidableEq, Repr

def stk8321SampFreqTable : Vector SampFreq 8 :=
  #v[⟨7, 810000, 0x08⟩, ⟨15, 630000, 0x09⟩, ⟨31, 250000, 0x0a⟩,
    ⟨62, 500000, 0x0b⟩, ⟨125, 0, 0x0c⟩, ⟨250, 0, 0x0d⟩, ⟨500, 0, 0x0e⟩,
    ⟨1000, 0, 0x0f⟩]

/-- `struct stk8321_data`.  The orientation is the memory from the first entry
of the matrix on. -/
structure Stk8321Data where
  orientation : Nat → String
  sampFreq : Fin 8

def sampFreqEntry (index : Fin 8) : SampFreq :=
  stk8321SampFreqTable.get index

/-- The index 0 of the probe. -/
abbrev firstSampFreq : Fin 8 :=
  ⟨0, Nat.zero_lt_succ 7⟩

/-! ## Channels -/

inductive IioChanInfo where
  | raw
  | sampFreq
  | other
  deriving DecidableEq, Repr

/-- `IIO_VAL_INT` and `IIO_VAL_INT_PLUS_MICRO` with their values. -/
inductive IioValue where
  | int (val : Int)
  | intPlusMicro (val val2 : Int)
  deriving DecidableEq, Repr

/-- `sign_extend32`. -/
def signExtend32 (value : Int) (index : Nat) : Int :=
  ((BitVec.ofInt 32 value <<< (31 - index)).sshiftRight (31 - index)).toInt

abbrev realbits : Nat := 12

/-- A sample of an axis, once it was read. -/
def rawValue (ret : Int) : Except Int IioValue :=
  if ret < 0 then .error ret
  else .ok (.int (signExtend32 ret (realbits - 1)))

def stk8321ReadRaw (data : Stk8321Data) (address : Nat)
    (mask : IioChanInfo) : Stk (Except Int IioValue) := do
  match mask with
  | .raw =>
      match address with
      | 0 =>
          let ret ← stk8321ReadX
          return rawValue ret
      | 1 =>
          let ret ← stk8321ReadY
          return rawValue ret
      | 2 =>
          let ret ← stk8321ReadZ
          return rawValue ret
      | _ => return .error (-einval)
  | .sampFreq =>
      let frequency := sampFreqEntry data.sampFreq
      return .ok (.intPlusMicro frequency.val frequency.val2)
  | .other => return .error (-einval)

/-- The last entry of the table with these values; -1 is `none`. -/
def matchingIndex (val val2 : Int) : Option (Fin 8) :=
  (List.finRange 8).foldl
    (fun matching i =>
      if val = (sampFreqEntry i).val ∧ val2 = (sampFreqEntry i).val2 then
        some i
      else matching)
    none

def stk8321WriteRaw (data : Stk8321Data) (val val2 : Int)
    (mask : IioChanInfo) : Stk (Int × Stk8321Data) := do
  match mask with
  | .sampFreq =>
      match matchingIndex val val2 with
      | none => return (-einval, data)
      | some matching =>
          let changed := { data with sampFreq := matching }
          let _ ← stk8321SetPowerMode powmodeSuspend
          let ret ←
            stk8321SetBandwidth (sampFreqEntry changed.sampFreq).regBits
          let _ ← stk8321SetPowerMode powmodeNormal
          return (ret, changed)
  | _ => return (-einval, data)

/-! ## Orientation -/

/-- `*orientation = iio_mount_zeromatrix`. -/
def zeromatrixWrites : MatrixWrites :=
  (List.range 9).map fun index => (index, "0")

/-- One value for each axis: the axis it maps to and the sign. -/
def axisWrite (i : Nat) (byte : U8) : Nat × String :=
  let axis := (byte &&& 0x3).toNat * 3
  let value := if byte &&& 0x10 ≠ 0 then "-1" else "1"
  (i + axis, value)

def axisWrites (bytes : List U8) : MatrixWrites :=
  bytes.zipIdx.map fun entry => axisWrite entry.2 entry.1

def stk8321ApplyAcpiOrientation (methodName : String) :
    Stk (Int × MatrixWrites) := do
  let adev ← request .acpiCompanion
  if adev = false then
    return (-enodev, [])
  else
    let hasMethod ← request (.acpiHasMethod methodName)
    if hasMethod = false then
      return (-enodev, [])
    else
      let status ← request (.acpiEvaluateObject methodName)
      match status with
      | some (some (.buffer bytes)) =>
          if bytes.length ≠ 3 then
            return (-eio, [])
          else
            return (0, zeromatrixWrites ++ axisWrites bytes)
      | _ => return (-eio, [])

/-- The label of the device is left out. -/
def stk8321ApplyOrientation (devName : String) :
    Stk (Int × MatrixWrites) := do
  let applied ←
    if strstr devName ":00" = true then stk8321ApplyAcpiOrientation "GETO"
    else pure (1, [])
  if applied.1 ≠ 0 then
    let read ← request .iioReadMountMatrix
    return (read.1, applied.2 ++ read.2)
  else
    return applied

/-! ## Probe and power management -/

/-- The matrix before anything is written to it. -/
def emptyOrientation : Nat → String :=
  fun _ => ""

/-- The setup of the sensor, which does not look at the results. -/
def setupSensor (sampFreq : Fin 8) : Stk Unit := do
  let _ ← stk8321SetPowerMode powmodeSuspend
  let _ ← stk8321SetRange rangesel2g
  let _ ← stk8321SetBandwidth (sampFreqEntry sampFreq).regBits
  let _ ← request (.i2cSmbusWriteByteData regDatasetup 0)
  let _ ← stk8321SetPowerMode powmodeNormal
  return ()

/-- The end of the probe, for a device that has an entry in the table of ids
or has none. -/
def registerDevice (id : Bool) : Stk Int := do
  if id = true then
    request .devmIioDeviceRegister
  else
    let companion ← request .acpiCompanion
    if companion = true then
      request .i2cAcpiNewDevice
      request .devmIioDeviceRegister
    else
      request .devmIioDeviceRegister

def stk8321Probe (devName : String) (id : Bool) :
    Stk (Int × Option Stk8321Data) := do
  let indioDev ← request .devmIioDeviceAlloc
  if indioDev = false then
    return (-enomem, none)
  else
    let ret ← request (.i2cSmbusWriteByteData regSwrst 0x00)
    if ret < 0 then
      return (ret, none)
    else
      setupSensor firstSampFreq
      let applied ← stk8321ApplyOrientation devName
      if applied.1 ≠ 0 then
        return (applied.1, none)
      else
        let ret ← registerDevice id
        return (ret, some
          { orientation := applyWrites applied.2 emptyOrientation
            sampFreq := firstSampFreq })

def stk8321Suspend : Stk Int := do
  let _ ← stk8321SetPowerMode powmodeSuspend
  return 0

def stk8321Resume : Stk Int := do
  let _ ← stk8321SetPowerMode powmodeNormal
  return 0

end TuxedoDrivers.Stk8321
