import TuxedoDrivers.Clevo.Settings
import TuxedoDrivers.Sysfs

/-!
# Flexicharger

The two protocols of the charge control in `clevo_keyboard.h` and the three
attributes built on them.  The legacy protocol reads and writes words and has
a write of its own for the thresholds and for the status; the other one reads
and writes buffers.  Which one a machine has is found out by trying.
-/

namespace TuxedoDrivers.Clevo

open Interaction

def clevoLegacyFlexichargerStartValues : List U8 :=
  [40, 50, 60, 70, 80, 95]

def clevoLegacyFlexichargerEndValues : List U8 :=
  [60, 70, 80, 90, 100]

/-- `abs` of a difference of two bytes, which C promotes to `int`. -/
def byteDistance (first second : U8) : Nat :=
  ((first.toNat : Int) - second.toNat).natAbs

/-- `array_find_closest_u8`; the later of two equally close values does not
replace the earlier one. -/
def arrayFindClosestU8 (value : U8) (haystack : List U8) : Int :=
  match haystack with
  | [] => -einval
  | first :: _ =>
      (haystack.foldl
        (fun closest candidate =>
          if byteDistance value candidate < byteDistance value closest then
            candidate
          else closest) first).toNat

/-- `dmi_string_in`. -/
def dmiStringIn (dmi : Dmi) (field : DmiField) (text : String) : Bool :=
  match dmi field with
  | none => false
  | some info => strstr info text

def flexichargerExcluded (dmi : Dmi) : Bool :=
  [ "N24_25BU", "L14xMU", "N141CU", "NH5xAx", "NL5xNU", "P95xER", "PCX0DX",
    "PD5x_7xPNP_PNR_PNN_PNT", "X170SM", "NS50MU", "NS50_70MU" ].any
      fun name => dmiStringIn dmi .boardName name

section Flexicharger

variable (activeClevoInterface : Option ClevoInterface)

/-! ## Legacy protocol -/

/-- The result and `*status`, which a failing read leaves alone.  Writing
back what was read should read as the command. -/
def clevoHasLegacyFlexicharger (dmi : Dmi) : Call (Int × Option Bool) := do
  if flexichargerExcluded dmi = true then
    return (0, some false)
  else
    let read ← clevoEvaluateMethod activeClevoInterface 0x77 0
    if read.1 ≠ 0 then
      return (read.1, none)
    else
      let readData := read.2.getD 0
      let written ←
        clevoEvaluateMethod activeClevoInterface 0x76
          (0x06000000 ||| ((readData >>> 8) &&& 0xffff))
      return (written.1, some (decide (written.2.getD readData = 0x76)))

/-- The values in the word, or the result if it is not 0.  A result of 0
comes with a word. -/
def clevoLegacyFlexichargerRead : Call (Except Int Flexicharger) := do
  let read ← clevoEvaluateMethod activeClevoInterface 0x77 0
  if read.1 ≠ 0 then
    return .error read.1
  else
    let data := read.2.getD 0
    return .ok
      { start := ((data >>> 0x08) &&& 0xff).setWidth 8
        stop := ((data >>> 0x10) &&& 0xff).setWidth 8
        status := (data &&& 0x01).setWidth 8 }

/-- The argument of the subcommand for the thresholds. -/
def writeDataThresholds (start stop : U8) : U32 :=
  0x06000000 ||| start.setWidth 32 ||| (stop.setWidth 32 <<< 0x08)

/-- The argument of the subcommand for the status. -/
def writeDataStatus (status : U8) : U32 :=
  0x05000000 ||| (status &&& 0x01).setWidth 32

/-- The status goes last, since it also triggers a save. -/
def clevoLegacyFlexichargerWrite
    (paramStart paramEnd paramStatus : Option U8) : Call Int := do
  match ← clevoLegacyFlexichargerRead activeClevoInterface with
  | .error _ => return -eio
  | .ok previous =>
      let thresholds ←
        clevoEvaluateMethod activeClevoInterface 0x76
          (writeDataThresholds (paramStart.getD previous.start)
            (paramEnd.getD previous.stop))
      if thresholds.1 ≠ 0 then
        return -eio
      else
        let status ←
          clevoEvaluateMethod activeClevoInterface 0x76
            (writeDataStatus (paramStatus.getD previous.status))
        if status.1 ≠ 0 then
          return -eio
        else
          return 0

/-! ## Choice of the protocol -/

/-- `*status`; the result is always 0. -/
def clevoHasCc4Flexicharger : Call Bool := do
  match ← clevoCc4FlexichargerRead activeClevoInterface with
  | .error _ => return false
  | .ok _ => return true

def clevoFlexichargerRead : Call (Except Int Flexicharger) := do
  let hasCc4Flexicharger ← clevoHasCc4Flexicharger activeClevoInterface
  if hasCc4Flexicharger = true then
    clevoCc4FlexichargerRead activeClevoInterface
  else
    clevoLegacyFlexichargerRead activeClevoInterface

def clevoFlexichargerWrite (paramStart paramEnd paramStatus : Option U8) :
    Call Int := do
  let hasCc4Flexicharger ← clevoHasCc4Flexicharger activeClevoInterface
  if hasCc4Flexicharger = true then
    clevoCc4FlexichargerWrite activeClevoInterface paramStart paramEnd
      paramStatus
  else
    clevoLegacyFlexichargerWrite activeClevoInterface paramStart paramEnd
      paramStatus

/-! ## Attributes -/

/-- A show function: the text, or a result that is not 0. -/
def flexichargerShow (text : Flexicharger → String) :
    Call (Except Int String) := do
  match ← clevoFlexichargerRead activeClevoInterface with
  | .error result => return .error result
  | .ok values => return .ok (text values)

/-- A store function: the count, or a negative result of the write. -/
def flexichargerStore (paramStart paramEnd paramStatus : Option U8)
    (count : Nat) : Call Int := do
  let result ←
    clevoFlexichargerWrite activeClevoInterface paramStart paramEnd
      paramStatus
  if result < 0 then
    return result
  else
    return count

def chargeTypeText (values : Flexicharger) : String :=
  if values.status = 1 then "Custom\n" else "Standard\n"

def chargeTypeShow : Call (Except Int String) :=
  flexichargerShow activeClevoInterface chargeTypeText

def chargeTypeStore (buf : String) (count : Nat) : Call Int :=
  if sysfsStreq buf "Standard" = true then
    flexichargerStore activeClevoInterface none none (some 0) count
  else if sysfsStreq buf "Custom" = true then
    flexichargerStore activeClevoInterface none none (some 1) count
  else
    pure (-einval)

/-- `%d` with a newline. -/
def thresholdText (threshold : U8) : String :=
  toString threshold.toNat ++ "\n"

def chargeControlStartThresholdShow : Call (Except Int String) :=
  flexichargerShow activeClevoInterface fun values =>
    thresholdText values.start

def chargeControlEndThresholdShow : Call (Except Int String) :=
  flexichargerShow activeClevoInterface fun values =>
    thresholdText values.stop

/-- The two threshold stores: `write_value` is the closest of the values. -/
def thresholdStore (values : List U8) (write : U8 → Call Int)
    (buf : String) : Call Int :=
  match kstrtou8 buf 10 with
  | .error result => pure result
  | .ok value =>
      if value.toNat < 1 ∨ value.toNat > 100 then
        pure (-einval)
      else
        write (BitVec.ofInt 8 (arrayFindClosestU8 value values))

def chargeControlStartThresholdStore (buf : String) (count : Nat) :
    Call Int :=
  thresholdStore clevoLegacyFlexichargerStartValues
    (fun writeValue =>
      flexichargerStore activeClevoInterface (some writeValue) none none
        count) buf

def chargeControlEndThresholdStore (buf : String) (count : Nat) :
    Call Int :=
  thresholdStore clevoLegacyFlexichargerEndValues
    (fun writeValue =>
      flexichargerStore activeClevoInterface none (some writeValue) none
        count) buf

end Flexicharger

end TuxedoDrivers.Clevo
