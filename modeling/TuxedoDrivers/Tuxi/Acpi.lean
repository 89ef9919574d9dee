import TuxedoDrivers.Interaction.Program
import TuxedoDrivers.Kernel

/-!
# The TUXI interface

`tuxi_acpi.c`: methods of the fan device of the firmware.  A getter has an
output of its caller, which is passed with what it holds before the call.
-/

namespace TuxedoDrivers.Tuxi

open Interaction

/-- An `acpi_handle` other than `NULL`. -/
abbrev Handle := Nat

inductive TuxiRequest where
  /-- `tuxi_driver_data`, with its `tfan_handle`; `none` is `NULL`. -/
  | getDriverData
  /-- `acpi_evaluate_integer`. -/
  | evaluateInteger (handle : Handle) (pathname : String)
      (params : List U64)
  deriving DecidableEq, Repr

/-- A failed ACPI call has no answer. -/
abbrev TuxiRequest.Answer : TuxiRequest → Type
  | .getDriverData => Option (Option Handle)
  | .evaluateInteger _ _ _ => Option U64

abbrev tuxiSignature : Signature :=
  ⟨TuxiRequest, TuxiRequest.Answer⟩

abbrev Acpi (α : Type) : Type :=
  Program tuxiSignature α

def request (item : TuxiRequest) : Acpi item.Answer :=
  Program.request (S := tuxiSignature) item

/-! ## Methods -/

/-- The allocation of the parameters, which is not checked, is taken to
succeed. -/
def evaluateIntparams (handle : Option Handle) (pathname : String)
    (intParams : List U64) : Acpi (Except Int U64) := do
  match handle with
  | none => return .error (-enodev)
  | some handle =>
      let status ← request (.evaluateInteger handle pathname intParams)
      match status with
      | none => return .error (-eio)
      | some result => return .ok result

/-- A method of the fan device; all functions of the interface start so. -/
def tfanMethod (pathname : String) (args : List U64) :
    Acpi (Except Int U64) := do
  let driverData ← request .getDriverData
  match driverData with
  | none => return .error (-enodev)
  | some tfanHandle => evaluateIntparams tfanHandle pathname args

/-- The setters differ in what they take for a refusal. -/
def tuxiSet (pathname : String) (args : List U64)
    (refused : U64 → Bool) : Acpi Int := do
  let result ← tfanMethod pathname args
  match result with
  | .error err => return err
  | .ok retval =>
      if refused retval = true then return -einval
      else return 0

/-- The getters differ in their check and in the conversion.  The output is
written on success only; `left` is what it holds before. -/
def tuxiGet {α : Type} (pathname : String) (args : List U64)
    (isError : U64 → Bool) (convert : U64 → α) (left : α) :
    Acpi (Int × α) := do
  let result ← tfanMethod pathname args
  match result with
  | .error err => return (err, left)
  | .ok retval =>
      if isError retval = true then return (-einval, left)
      else return (0, convert retval)

/-- `retval < 0` of a signed variable. -/
def signedNegative (retval : U64) : Bool :=
  retval.slt 0

/-- `retval < 0` of an unsigned variable. -/
def unsignedNegative (retval : U64) : Bool :=
  retval.ult 0

/-- Through a byte to an enumeration. -/
def enumOfByte (retval : U64) : U32 :=
  (retval.setWidth 8).setWidth 32

def tuxiSetFanSpeed (fanIndex fanSpeed : U8) : Acpi Int :=
  tuxiSet "SSPD" [fanIndex.setWidth 64, fanSpeed.setWidth 64]
    fun retval => decide (retval ≠ 0)

def tuxiGetFanSpeed (fanIndex : U8) : U8 → Acpi (Int × U8) :=
  tuxiGet "GSPD" [fanIndex.setWidth 64] signedNegative fun retval =>
    retval.setWidth 8

/-- This getter has no check. -/
def tuxiGetNrFans : U8 → Acpi (Int × U8) :=
  tuxiGet "GCNT" [] (fun _ => false) fun retval => retval.setWidth 8

/-- `enum tuxi_fan_mode`. -/
abbrev modeAuto : U32 := 0
abbrev modeManual : U32 := 1

def tuxiSetFanMode (mode : U32) : Acpi Int :=
  tuxiSet "SMOD" [mode.setWidth 64] signedNegative

def tuxiGetFanMode : U32 → Acpi (Int × U32) :=
  tuxiGet "GMOD" [] signedNegative enumOfByte

def tuxiGetFanType (fanIndex : U8) : U32 → Acpi (Int × U32) :=
  tuxiGet "GTYP" [fanIndex.setWidth 64] signedNegative enumOfByte

/-- `retval` is unsigned in this getter and the next. -/
def tuxiGetFanTemp (index : U8) : U16 → Acpi (Int × U16) :=
  tuxiGet "GTMP" [index.setWidth 64] unsignedNegative fun retval =>
    retval.setWidth 16

def tuxiGetFanRpm (index : U8) : U16 → Acpi (Int × U16) :=
  tuxiGet "GRPM" [index.setWidth 64] unsignedNegative fun retval =>
    retval.setWidth 16

/-! ## What a method answers -/

section Answers

variable {σ : Type} (environment : Environment tuxiSignature σ) (state : σ)

/-- The value that a method returns next, if it can be evaluated. -/
def methodAnswer (pathname : String) (args : List U64) : Option U64 :=
  match (environment .getDriverData state).1 with
  | some (some handle) =>
      (environment (.evaluateInteger handle pathname args)
        (environment .getDriverData state).2).1
  | _ => none

/-- A method either answers or fails with an error number. -/
theorem run_tfanMethod (pathname : String) (args : List U64) :
    (∃ err < 0,
        ((tfanMethod pathname args).run environment state).1 =
            .error err ∧
          methodAnswer environment state pathname args = none) ∨
      ∃ retval,
        ((tfanMethod pathname args).run environment state).1 =
            .ok retval ∧
          methodAnswer environment state pathname args = some retval := by
  have first :
      (request .getDriverData).run environment state =
        environment .getDriverData state := rfl
  rw [tfanMethod, methodAnswer, Program.run_bind, first]
  cases (environment .getDriverData state).1 with
  | none =>
      exact Or.inl ⟨-enodev, by decide, rfl, rfl⟩
  | some tfanHandle =>
      cases tfanHandle with
      | none =>
          exact Or.inl ⟨-enodev, by decide, rfl, rfl⟩
      | some handle =>
          have second :
              (request (.evaluateInteger handle pathname args)).run
                  environment (environment .getDriverData state).2 =
                environment (.evaluateInteger handle pathname args)
                  (environment .getDriverData state).2 := rfl
          simp only [evaluateIntparams, Program.run_bind, second]
          cases (environment (.evaluateInteger handle pathname args)
              (environment .getDriverData state).2).1 with
          | none =>
              exact Or.inl ⟨-eio, by decide, rfl, rfl⟩
          | some retval =>
              exact Or.inr ⟨retval, rfl, rfl⟩

end Answers

end TuxedoDrivers.Tuxi
